import EntityMap.Locator.Memo
import EntityMap.Proofs.Record.Fields
import Mathlib.Data.List.Lex
import Mathlib.Data.List.Nodup

/-!
# The order of the walk

The walk lists its entries in the lexicographic order of their paths, so no locator occurs twice. A
lookup takes of the entries that match the one that precedes all others: a less deep one precedes a
deeper one, and of those as deep the one that is declared earlier does.
-/

namespace EntityMap

/-! ## Paths in order -/

/-- The entries of the field with index `i` lie on paths that begin with it. -/
theorem Field.exists_path_of_mem_walkAt {f : Field} {i : Nat} {x : Entry} (hx : x ∈ f.walkAt i) :
    ∃ rest, x.locator.path = i :: rest := by
  by_cases embeds : ∃ inner, f.kind = .flatten inner
  · obtain ⟨inner, hk⟩ := embeds
    rw [Field.walkAt_of_flatten hk] at hx
    obtain ⟨y, -, rfl⟩ := List.mem_map.1 hx
    exact ⟨y.locator.path, rfl⟩
  · rw [Field.walkAt_of_plain fun inner hk => embeds ⟨inner, hk⟩, List.mem_singleton] at hx
    subst hx
    exact ⟨[], rfl⟩

private theorem pairwise_walkFields {fields : List Field} (i : Nat)
    (each : ∀ f ∈ fields, ∀ j, (f.walkAt j).Pairwise fun x y => x.locator.path < y.locator.path) :
    (walkFields i fields).Pairwise fun x y => x.locator.path < y.locator.path := by
  induction fields generalizing i with
  | nil => exact .nil
  | cons f rest ih =>
    rw [walkFields, List.pairwise_append]
    refine ⟨each f List.mem_cons_self i, ih (i + 1) fun g hg => each g (.tail _ hg), ?_⟩
    intro x hx y hy
    obtain ⟨j, g, -, hy⟩ := mem_walkFields.1 hy
    obtain ⟨p, hp⟩ := Field.exists_path_of_mem_walkAt hx
    obtain ⟨q, hq⟩ := Field.exists_path_of_mem_walkAt hy
    rw [hp, hq, List.cons_lt_cons_iff]
    exact .inl (by omega)

namespace Schema

/-- The walk lists its entries in lexicographic order of their paths. -/
theorem pairwise_walk (s : Schema) :
    s.walk.Pairwise fun x y => x.locator.path < y.locator.path := by
  rw [walk_eq]
  refine pairwise_walkFields 0 fun f hf j => ?_
  obtain ⟨i, hi⟩ := List.getElem?_of_mem hf
  match hk : f.kind with
  | .flatten inner =>
    have ih := pairwise_walk inner
    rw [Field.walkAt_of_flatten hk, List.pairwise_map]
    exact ih.imp fun {x y} h => List.cons_lt_cons_iff.2 (.inr ⟨rfl, h⟩)
  | .scalar t | .one t | .many t | .ids t =>
    rw [Field.walkAt_of_plain (by simp [hk])]
    exact List.pairwise_singleton ..
termination_by sizeOf s
decreasing_by exact Schema.sizeOf_lt_of_flatten hi hk

end Schema

/-- Of entries in order no two are at one place. -/
theorem eq_of_pairwise_path {es : List Entry} {x y : Entry}
    (sorted : es.Pairwise fun x y => x.locator.path < y.locator.path) (hx : x ∈ es) (hy : y ∈ es)
    (same : x.locator.path = y.locator.path) : x = y := by
  have nodup : (es.map (·.locator.path)).Nodup := List.pairwise_map.2 (sorted.imp fun h => h.ne)
  exact List.inj_on_of_nodup_map nodup hx hy same

/-! ## Precedence -/

/-- The entry is less deep than the other, or as deep and declared earlier. -/
def Entry.Precedes (x y : Entry) : Prop :=
  x.locator.depth < y.locator.depth ∨
    x.locator.depth = y.locator.depth ∧ x.locator.path < y.locator.path

namespace Entry

instance (x y : Entry) : Decidable (x.Precedes y) :=
  inferInstanceAs (Decidable (_ ∨ _ ∧ _))

theorem not_precedes_self (x : Entry) : ¬ x.Precedes x := by
  simp [Precedes]

/-- Of two entries at most one precedes the other. -/
theorem Precedes.not_precedes {x y : Entry} (h : x.Precedes y) : ¬ y.Precedes x := by
  rcases h with less | ⟨same, before⟩
  · rintro (less' | ⟨same', -⟩) <;> omega
  · rintro (less' | ⟨-, before'⟩)
    · omega
    · exact lt_asymm before before'

/-- Of two entries at different places one precedes the other. -/
theorem precedes_or_precedes {x y : Entry} (ne : x.locator.path ≠ y.locator.path) :
    x.Precedes y ∨ y.Precedes x := by
  unfold Precedes
  rcases lt_trichotomy x.locator.depth y.locator.depth with less | same | more
  · exact .inl (.inl less)
  · rcases lt_or_gt_of_ne ne with before | after
    · exact .inl (.inr ⟨same, before⟩)
    · exact .inr (.inr ⟨same.symm, after⟩)
  · exact .inr (.inl more)

end Entry

namespace Schema

variable {es : List Entry} {s : Schema} {x y : Entry}

private theorem not_precedes_of_shallowest?
    (sorted : es.Pairwise fun x y => x.locator.path < y.locator.path)
    (h : shallowest? es = some x) (hy : y ∈ es) : ¬ y.Precedes x := by
  induction es generalizing x with
  | nil => simp at hy
  | cons z rest ih =>
    obtain ⟨first, sorted⟩ := List.pairwise_cons.1 sorted
    cases hr : shallowest? rest with
    | none =>
      obtain rfl := shallowest?_eq_none_iff.1 hr
      obtain rfl : z = x := by simpa [shallowest?] using h
      obtain rfl := List.mem_singleton.1 hy
      exact y.not_precedes_self
    | some best =>
      simp only [shallowest?, hr] at h
      split at h
      · next shallow =>
        -- what follows the first entry is no less deep, and declared later
        obtain rfl := Option.some.inj h
        rcases List.mem_cons.1 hy with rfl | later
        · exact y.not_precedes_self
        · have deep := depth_le_of_shallowest? hr later
          rintro (less | ⟨-, before⟩)
          · omega
          · exact lt_asymm before (first y later)
      · next deep =>
        obtain rfl := Option.some.inj h
        rcases List.mem_cons.1 hy with rfl | later
        · rintro (less | ⟨same, -⟩) <;> omega
        · exact ih sorted hr later

/-- Of entries in order the lookup takes the one that no other precedes. -/
theorem shallowest?_eq_some_iff
    (sorted : es.Pairwise fun x y => x.locator.path < y.locator.path) :
    shallowest? es = some x ↔ x ∈ es ∧ ∀ y ∈ es, ¬ y.Precedes x := by
  constructor
  · intro h
    exact ⟨mem_of_shallowest? h, fun y hy => not_precedes_of_shallowest? sorted h hy⟩
  · rintro ⟨hx, least⟩
    cases h : shallowest? es with
    | none =>
      rw [shallowest?_eq_none_iff.1 h] at hx
      exact absurd hx List.not_mem_nil
    | some y =>
      have hy := mem_of_shallowest? h
      by_contra ne
      have apart : y.locator.path ≠ x.locator.path := by
        intro same
        exact ne (by rw [eq_of_pairwise_path sorted hy hx same])
      rcases Entry.precedes_or_precedes apart with before | after
      · exact least y hy before
      · exact not_precedes_of_shallowest? sorted h hx after

/-- Of the entries with a property the lookup takes the one that no other precedes. -/
theorem shallowest?_filter_eq_some_iff {p : Entry → Bool} :
    shallowest? (s.walk.filter p) = some x ↔
      x ∈ s.walk ∧ p x = true ∧ ∀ y ∈ s.walk, p y = true → ¬ y.Precedes x := by
  rw [shallowest?_eq_some_iff (s.pairwise_walk.filter p)]
  simp only [List.mem_filter, and_imp, and_assoc]

/-- A name leads to the field of that name that no other one precedes. -/
theorem fieldEntry?_eq_some_iff {name : String} : s.fieldEntry? name = some x ↔
    x ∈ s.walk ∧ x.field.name = name ∧ ∀ y ∈ s.walk, y.field.name = name → ¬ y.Precedes x := by
  simp only [Schema.fieldEntry?, shallowest?_filter_eq_some_iff, decide_eq_true_eq]

end Schema

/-! ## The walk and the places in it -/

/-- The field is stored in the column of the name, or declared under the name. -/
def Field.HasName (f : Field) (kind : NameKind) (name : String) : Prop :=
  match kind with
  | .column => f.column = some name
  | .field => f.name = name

instance (f : Field) (kind : NameKind) (name : String) : Decidable (f.HasName kind name) :=
  match kind with
  | .column => inferInstanceAs (Decidable (f.column = some name))
  | .field => inferInstanceAs (Decidable (f.name = name))

namespace Schema

variable {s : Schema} {x : Entry} {kind : NameKind} {name : String}

/-- The entry has the name, and precedes all others that have it. -/
def LeadsTo (s : Schema) (kind : NameKind) (name : String) (x : Entry) : Prop :=
  x ∈ s.walk ∧ x.field.HasName kind name ∧
    ∀ y ∈ s.walk, y.field.HasName kind name → y = x ∨ x.Precedes y

theorem locate?_eq_map (s : Schema) (kind : NameKind) (name : String) : s.locate? kind name =
    (shallowest? (s.walk.filter (·.field.HasName kind name))).map (·.locator) := by
  cases kind <;> rfl

/-- No entry but itself precedes the one that precedes all others. -/
theorem leadsTo_iff : s.LeadsTo kind name x ↔ x ∈ s.walk ∧ x.field.HasName kind name ∧
    ∀ y ∈ s.walk, y.field.HasName kind name → ¬ y.Precedes x := by
  refine and_congr_right fun hx => and_congr_right fun _ => ?_
  refine forall₃_congr fun y hy _ => ⟨?_, fun least => ?_⟩
  · rintro (rfl | first)
    · exact y.not_precedes_self
    · exact first.not_precedes
  · by_cases same : y.locator.path = x.locator.path
    · exact .inl (eq_of_pairwise_path s.pairwise_walk hy hx same)
    · exact .inr ((Entry.precedes_or_precedes same).resolve_left least)

/-- A name is located just if some entry has it. -/
theorem exists_locate?_iff :
    (∃ l, s.locate? kind name = some l) ↔ ∃ x ∈ s.walk, x.field.HasName kind name := by
  rw [locate?_eq_map, ← Option.isSome_iff_exists, Option.isSome_map, Option.isSome_iff_ne_none,
    Ne, shallowest?_eq_none_iff]
  simp [List.filter_eq_nil_iff]

/-- The entries of the walk are the fields at the ends of paths that embed nothing, each with its
path, in lexicographic order of the paths. A column, or the name of a field, is located just if some
entry has it: at the least deep of the entries that have it, and of those as deep at the one that is
declared first. -/
theorem walk_agrees_with_locators (s : Schema) :
    (∀ x : Entry, x ∈ s.walk ↔
      s.fieldAt? x.locator = some x.field ∧ ∀ inner, x.field.kind ≠ .flatten inner) ∧
    (s.walk.Pairwise fun x y => x.locator.path < y.locator.path) ∧
    ∀ kind name,
      ((∃ l, s.locate? kind name = some l) ↔ ∃ x ∈ s.walk, x.field.HasName kind name) ∧
      ∀ l, s.locate? kind name = some l ↔ ∃ x, s.LeadsTo kind name x ∧ x.locator = l := by
  refine ⟨fun x => mem_walk_iff_fieldAt?, s.pairwise_walk, fun kind name =>
    ⟨exists_locate?_iff, fun l => ?_⟩⟩
  simp only [locate?_eq_map, Option.map_eq_some_iff, shallowest?_filter_eq_some_iff, leadsTo_iff,
    decide_eq_true_eq]

end Schema

end EntityMap
