import EntityMap.Error

/-!
# Versions

The version of a row is an integer that grows by one with every update.
-/

namespace EntityMap

/-- The version after a given one, of the same integer type. -/
def nextVersion : Value → Except Error Value
  | .int k (some n) =>
    match n.next? with
    | some m => .ok (.int k (some m))
    | none => .error (.shape (.versionOverflow (.int k (some n))))
  | v => .error (.shape (.versionNotInteger v))

/-- A version and the one after it are of one variant. -/
theorem variant_of_nextVersion {v w : Value} (h : nextVersion v = .ok w) :
    w.variant = v.variant := by
  unfold nextVersion at h
  split at h
  · split at h
    · cases h
      rfl
    · simp at h
  · simp at h

end EntityMap
