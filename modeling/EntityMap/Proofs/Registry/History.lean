import EntityMap.Registry
import EntityMap.Settings
import Mathlib.Data.List.Induction
import Mathlib.Data.List.Nodup
import Mathlib.Data.String.Basic

/-!
# Histories of a registry

A registry is changed by registering entities, by parsing schemas and by renaming tables. Which
entities a history leaves can be read off the history itself: a registration stands unless a later
one is of its type or under its name, and later calls rename its table. `after_reflects` says
that a registry holds just these entities and that every look-up answers from them.
-/

namespace EntityMap

/-- A call that may change a registry. -/
inductive Change where
  /-- The entity that the annotations of a schema describe is registered. -/
  | parse (schema : Schema) (name : Option String)
  | register (entity : Entity)
  | renameStorage (f : String → String)
  | configure (settings : Settings)

namespace Change

/-- What the call makes of a registry; a parse that fails leaves it as it was. -/
def apply (c : Change) (r : Registry) : Registry :=
  match c with
  | parse s name =>
    match r.parse s name with
    | .ok (r, _) => r
    | .error _ => r
  | register e => r.register e
  | renameStorage f => r.renameStorage f
  | configure settings => r.addPrefix settings.tablePrefix

/-- The entity that the call registers, if it succeeds in registering one. -/
def registered? : Change → Option Entity
  | parse s name => (Entity.ofSchema? s name).toOption
  | register e => some e
  | renameStorage _ | configure _ => none

/-- The name after the call of a table that was there before it. -/
def newTable : Change → String → String
  | parse _ _ | register _ => id
  | renameStorage f => f
  | configure settings =>
    match settings.tablePrefix.filter (· ≠ "") with
    | some p => (p ++ ·)
    | none => id

/-- The call registers nothing of the type or under the name of an entity. -/
def Keeps (c : Change) (e : Entity) : Prop :=
  ∀ x ∈ c.registered?, e.type ≠ x.type ∧ e.name ≠ x.name

instance (c : Change) (e : Entity) : Decidable (c.Keeps e) :=
  inferInstanceAs (Decidable (∀ x ∈ c.registered?, e.type ≠ x.type ∧ e.name ≠ x.name))

end Change

/-- No later call displaces an entity. -/
def Undisplaced (later : List Change) (e : Entity) : Prop := ∀ c ∈ later, c.Keeps e

instance (later : List Change) (e : Entity) : Decidable (Undisplaced later e) :=
  inferInstanceAs (Decidable (∀ c ∈ later, c.Keeps e))

/-- The name of a table after all of the later calls. -/
def tableAfter (later : List Change) (table : String) : String :=
  later.foldl (fun t c => c.newTable t) table

/-- The entities that a history leaves: of each registration that no later one displaces the
entity registered, its table renamed by what came later. -/
def standing : List Change → List Entity
  | [] => []
  | c :: later =>
    match c.registered? with
    | some e =>
      if Undisplaced later e then e.renameStorage (tableAfter later) :: standing later
      else standing later
    | none => standing later

/-- The registry after a history that begins with none registered. -/
def Registry.after (history : List Change) : Registry :=
  history.foldl (fun r c => c.apply r) {}

/-! ## Renaming -/

@[simp] theorem Entity.type_renameStorage (f : String → String) (e : Entity) :
    (e.renameStorage f).type = e.type := rfl

@[simp] theorem Entity.name_renameStorage (f : String → String) (e : Entity) :
    (e.renameStorage f).name = e.name := rfl

@[simp] theorem Entity.renameStorage_id (e : Entity) : e.renameStorage id = e := rfl

/-- Tables are renamed by two stretches of a history one after the other. -/
theorem tableAfter_append (h₁ h₂ : List Change) :
    tableAfter (h₁ ++ h₂) = tableAfter h₂ ∘ tableAfter h₁ := by
  funext table
  exact List.foldl_append

/-- What two stretches of a history do not displace neither of them displaces. -/
theorem undisplaced_append (h₁ h₂ : List Change) (e : Entity) :
    Undisplaced (h₁ ++ h₂) e ↔ Undisplaced h₁ e ∧ Undisplaced h₂ e :=
  List.forall_mem_append

/-! ## What a history leaves -/

/-- The entities of a registry after one more call. -/
theorem Change.entries_apply (c : Change) (r : Registry) :
    (c.apply r).entries =
      (r.entries.filter (c.Keeps ·)).map (·.renameStorage c.newTable) ++ c.registered?.toList := by
  have kept (e : Entity) (h : c.registered? = some e) :
      r.entries.filter (c.Keeps ·) =
        r.entries.filter (fun x => x.type ≠ e.type && x.name ≠ e.name) := by
    simp [Keeps, h]
  have all (h : c.registered? = none) : r.entries.filter (c.Keeps ·) = r.entries := by
    simp [Keeps, h]
  cases c with
  | parse s name =>
    cases hp : Entity.ofSchema? s name with
    | error fault =>
      have h : (parse s name).registered? = none := by simp [registered?, hp, Except.toOption]
      rw [all h, h]
      simp [apply, Registry.parse, hp, newTable, Except.map]
    | ok e =>
      have h : (parse s name).registered? = some e := by simp [registered?, hp, Except.toOption]
      rw [kept e h, h]
      simp [apply, Registry.parse, hp, newTable, Except.map, Registry.register]
  | register e =>
    rw [kept e rfl]
    simp [apply, newTable, registered?, Registry.register]
  | renameStorage f =>
    rw [all rfl]
    simp [apply, newTable, registered?, Registry.renameStorage]
  | configure settings =>
    rw [all rfl]
    simp only [apply, newTable, registered?, Registry.addPrefix, Option.toList_none,
      List.append_nil]
    cases settings.tablePrefix.filter (· ≠ "") with
    | none => simp
    | some p => rfl

/-- The later of two stretches of a history displaces and renames what the earlier one leaves. -/
theorem standing_append (h₁ h₂ : List Change) :
    standing (h₁ ++ h₂) =
      ((standing h₁).filter (Undisplaced h₂ ·)).map (·.renameStorage (tableAfter h₂))
        ++ standing h₂ := by
  induction h₁ with
  | nil => rfl
  | cons c rest ih =>
    simp only [List.cons_append, standing]
    cases c.registered? with
    | none => exact ih
    | some e =>
      by_cases hr : Undisplaced rest e <;> by_cases hl : Undisplaced h₂ e
      · have both : Undisplaced (rest ++ h₂) e := (undisplaced_append rest h₂ e).2 ⟨hr, hl⟩
        have hn : Undisplaced h₂ (e.renameStorage (tableAfter rest)) := hl
        simp only [both, hr, hn, if_true, List.filter_cons, decide_true, List.map_cons,
          List.cons_append, ih, tableAfter_append]
        rfl
      · have not : ¬ Undisplaced (rest ++ h₂) e := fun h => hl ((undisplaced_append _ _ _).1 h).2
        have hn : ¬ Undisplaced h₂ (e.renameStorage (tableAfter rest)) := hl
        simp [not, hr, hn, ih]
      · have not : ¬ Undisplaced (rest ++ h₂) e := fun h => hr ((undisplaced_append _ _ _).1 h).1
        simp [not, hr, ih]
      · have not : ¬ Undisplaced (rest ++ h₂) e := fun h => hr ((undisplaced_append _ _ _).1 h).1
        simp [not, hr, ih]

/-- A registry holds what its history leaves, in the order of registration. -/
theorem entries_after (h : List Change) : (Registry.after h).entries = standing h := by
  induction h using List.reverseRecOn with
  | nil => rfl
  | append_singleton h c ih =>
    have one : standing [c] = c.registered?.toList := by
      cases hc : c.registered? <;> simp [standing, hc, Undisplaced]
      rfl
    have last : Registry.after (h ++ [c]) = c.apply (Registry.after h) := by
      simp [Registry.after]
    rw [last, c.entries_apply, ih, standing_append, one]
    simp only [Undisplaced, List.forall_mem_singleton]
    rfl

/-- No history makes look-ups ambiguous. -/
theorem distinct_after (h : List Change) : (Registry.after h).Distinct := by
  induction h using List.reverseRecOn with
  | nil => exact Registry.distinct_empty
  | append_singleton h c ih =>
    have last : Registry.after (h ++ [c]) = c.apply (Registry.after h) := by
      simp [Registry.after]
    rw [last]
    cases c with
    | parse s name =>
      simp only [Change.apply, Registry.parse]
      cases Entity.ofSchema? s name with
      | error fault => exact ih
      | ok e => exact ih.register e
    | register e => exact ih.register e
    | renameStorage f => exact ih.renameStorage f
    | configure settings =>
      simp only [Change.apply, Registry.addPrefix]
      cases settings.tablePrefix.filter (· ≠ "") with
      | none => exact ih
      | some p => exact ih.renameStorage _

/-- A registration within a history: what is left from before it, unless it displaced that, then
its own entity, if it stands, then what is left from after it. -/
private theorem standing_split (earlier later : List Change) {c : Change} {e : Entity}
    (hc : c.registered? = some e) :
    ∃ rest : List Entity, (∀ x ∈ rest, x.type ≠ e.type ∧ x.name ≠ e.name) ∧
      standing (earlier ++ c :: later) =
        rest ++ (if Undisplaced later e then [e.renameStorage (tableAfter later)] else [])
          ++ standing later := by
  refine ⟨((standing earlier).filter (Undisplaced (c :: later) ·)).map
    (·.renameStorage (tableAfter (c :: later))), ?_, ?_⟩
  · intro x hx
    obtain ⟨y, hy, rfl⟩ := List.mem_map.1 hx
    have kept : Undisplaced (c :: later) y := by simpa using (List.mem_filter.1 hy).2
    exact kept c List.mem_cons_self e hc
  · rw [standing_append, List.append_assoc]
    congr 1
    simp only [standing, hc]
    split <;> rfl

/-- An entity stands just if its registration is not displaced later. -/
theorem mem_standing_iff {h : List Change} {x : Entity} :
    x ∈ standing h ↔ ∃ earlier c later e, h = earlier ++ c :: later ∧ c.registered? = some e ∧
      Undisplaced later e ∧ x = e.renameStorage (tableAfter later) := by
  constructor
  · intro hx
    induction h with
    | nil => simp [standing] at hx
    | cons c later ih =>
      have rest : x ∈ standing later → ∃ earlier d tail e, c :: later = earlier ++ d :: tail ∧
          d.registered? = some e ∧ Undisplaced tail e ∧ x = e.renameStorage (tableAfter tail) := by
        intro hx
        obtain ⟨earlier, d, tail, e, rfl, found⟩ := ih hx
        exact ⟨c :: earlier, d, tail, e, rfl, found⟩
      cases hc : c.registered? with
      | none =>
        rw [standing, hc] at hx
        exact rest hx
      | some e =>
        by_cases hu : Undisplaced later e
        · simp only [standing, hc, hu, if_true, List.mem_cons] at hx
          rcases hx with rfl | hx
          · exact ⟨[], c, later, e, rfl, hc, hu, rfl⟩
          · exact rest hx
        · simp only [standing, hc, hu, if_false] at hx
          exact rest hx
  · rintro ⟨earlier, c, later, e, rfl, hc, hu, rfl⟩
    obtain ⟨rest, -, hs⟩ := standing_split earlier later hc
    rw [hs]
    simp [hu]

/-- An entity that is not displaced after its registration is found by its type. -/
theorem ofType?_after {earlier later : List Change} {c : Change} {e : Entity}
    (hc : c.registered? = some e) (hu : Undisplaced later e) :
    (Registry.after (earlier ++ c :: later)).ofType? e.type =
      some (e.renameStorage (tableAfter later)) := by
  refine (distinct_after _).ofType?_eq_some_iff.2 ⟨?_, rfl⟩
  rw [entries_after]
  exact mem_standing_iff.2 ⟨earlier, c, later, e, rfl, hc, hu, rfl⟩

/-- An entity that is not displaced after its registration is found by its name. -/
theorem named?_after {earlier later : List Change} {c : Change} {e : Entity}
    (hc : c.registered? = some e) (hu : Undisplaced later e) :
    (Registry.after (earlier ++ c :: later)).named? e.name =
      some (e.renameStorage (tableAfter later)) := by
  refine (distinct_after _).named?_eq_some_iff.2 ⟨?_, rfl⟩
  rw [entries_after]
  exact mem_standing_iff.2 ⟨earlier, c, later, e, rfl, hc, hu, rfl⟩

/-- What a registry owes to its history. -/
structure Registry.Reflects (r : Registry) (h : List Change) : Prop where
  /-- There are the entities that stand, each once, and no others. -/
  entries : r.entries = standing h
  /-- A registration that is not displaced later answers to its type and to its name: with the
  entity registered, but for the name of the table, which later calls have changed. -/
  present : ∀ earlier c later e, h = earlier ++ c :: later → c.registered? = some e →
    Undisplaced later e →
      r.ofType? e.type = some (e.renameStorage (tableAfter later)) ∧
      r.named? e.name = some (e.renameStorage (tableAfter later))
  /-- Its type and name answer as if nothing had been called up to a registration that is
  displaced later. -/
  displaced : ∀ earlier c later e, h = earlier ++ c :: later → c.registered? = some e →
    ¬ Undisplaced later e →
      r.ofType? e.type = (Registry.after later).ofType? e.type ∧
      r.named? e.name = (Registry.after later).named? e.name
  /-- The entity of a type is the one that stands and is of the type. -/
  ofType : ∀ t e, r.ofType? t = some e ↔ e ∈ standing h ∧ e.type = t
  /-- The entity of a name is the one that stands and has the name. -/
  named : ∀ name e, r.named? name = some e ↔ e ∈ standing h ∧ e.name = name
  /-- Both ways to look an entity up lead to it, or neither does. -/
  agree : ∀ e, r.ofType? e.type = some e ↔ r.named? e.name = some e
  types : ((standing h).map (·.type)).Nodup
  names : ((standing h).map (·.name)).Nodup
  sorted : r.names.Pairwise (· < ·)
  listed : ∀ name, name ∈ r.names ↔ ∃ e ∈ standing h, e.name = name
  size : r.size = (standing h).length ∧ r.size = r.names.length

/-- A registry is determined by its history: by what was registered and not displaced later, and by
how tables were renamed after that. -/
theorem after_reflects (h : List Change) : (Registry.after h).Reflects h := by
  have he : (Registry.after h).entries = standing h := entries_after h
  have hd : (Registry.after h).Distinct := distinct_after h
  have names : ((standing h).map (·.name)).Nodup := by
    rw [← he]
    exact List.pairwise_map.2 (hd.imp And.right)
  have perm : (Registry.after h).names.Perm ((standing h).map (·.name)) := by
    rw [Registry.names, he]
    exact List.mergeSort_perm _ _
  constructor
  case entries => exact he
  case present =>
    rintro earlier c later e rfl hc hu
    exact ⟨ofType?_after hc hu, named?_after hc hu⟩
  case displaced =>
    intro earlier c later e hh hc hu
    obtain ⟨rest, hrest, hs⟩ := standing_split earlier later hc
    have split : (Registry.after h).entries = rest ++ (Registry.after later).entries := by
      rw [he, hh, hs, entries_after later]
      simp [hu]
    have noType : rest.find? (·.type = e.type) = none := by
      simpa using fun x hx => (hrest x hx).1
    have noName : rest.find? (·.name = e.name) = none := by
      simpa using fun x hx => (hrest x hx).2
    constructor
    · rw [Registry.ofType?, split, List.find?_append, noType, Option.none_or]
      rfl
    · rw [Registry.named?, split, List.find?_append, noName, Option.none_or]
      rfl
  case ofType => intro t e; rw [← he]; exact hd.ofType?_eq_some_iff
  case named => intro name e; rw [← he]; exact hd.named?_eq_some_iff
  case agree =>
    intro e
    rw [hd.ofType?_eq_some_iff, hd.named?_eq_some_iff]
    simp
  case types =>
    rw [← he]
    exact List.pairwise_map.2 (hd.imp And.left)
  case names => exact names
  case sorted =>
    have le : (Registry.after h).names.Pairwise (· ≤ ·) := by
      have := @List.pairwise_mergeSort String (fun a b => decide (a ≤ b))
        (by simpa using fun a b c => le_trans) (by simpa using fun a b => le_total a b)
        ((Registry.after h).entries.map (·.name))
      simpa [Registry.names] using this
    have ne : (Registry.after h).names.Pairwise (· ≠ ·) := perm.nodup_iff.2 names
    exact (le.and ne).imp fun both => lt_of_le_of_ne both.1 both.2
  case listed =>
    intro name
    rw [perm.mem_iff]
    simp
  case size =>
    have length : (Registry.after h).names.length = (standing h).length := by
      rw [perm.length_eq, List.length_map]
    have size : (Registry.after h).size = (standing h).length := by rw [Registry.size, he]
    exact ⟨size, by rw [size, length]⟩

end EntityMap
