import EntityMap.Entity.Annotation
import EntityMap.Proofs.Success

/-!
# Relations that annotations declare

A field whose annotations name a relation kind declares a relation. `Annotated.Declares` says which
one, rule by rule: an option that is given counts, and where it is missing the names of the field
and of the entity, or the key, stand in for it. `Annotated.Consistent` says when there is such a
relation to be read off at all, and the lemmas at the end tie the two to the reading.
-/

namespace EntityMap

/-! ## The first occurrence of a part -/

/-- The part stands between the other two, and occurs nowhere before. -/
structure FirstOccurrence (part text before after : List Char) : Prop where
  split : text = before ++ part ++ after
  first : ∀ before' after', text = before' ++ part ++ after' → before.length ≤ before'.length

/-- What occurs at the beginning occurs there first. -/
private theorem firstOccurrence_append {part after before after' : List Char} :
    FirstOccurrence part (part ++ after) before after' ↔ before = [] ∧ after' = after := by
  constructor
  · rintro ⟨split, first⟩
    have length := first [] after rfl
    obtain rfl := List.eq_nil_of_length_eq_zero (Nat.le_zero.1 length)
    exact ⟨rfl, (List.append_cancel_left split).symm⟩
  · rintro ⟨rfl, rfl⟩
    exact ⟨rfl, fun _ _ _ => Nat.zero_le _⟩

/-- What does not occur at the beginning occurs first one character later than in the rest. -/
private theorem firstOccurrence_cons {part rest before after : List Char} {c : Char}
    (h : ¬ part <+: c :: rest) : FirstOccurrence part (c :: rest) before after ↔
      ∃ before', before = c :: before' ∧ FirstOccurrence part rest before' after := by
  have inner {b a : List Char} (split : c :: rest = b ++ part ++ a) :
      ∃ b', b = c :: b' ∧ rest = b' ++ part ++ a := by
    cases b with
    | nil => exact absurd ⟨a, split.symm⟩ h
    | cons d b' =>
      rw [List.cons_append, List.cons_append, List.cons.injEq] at split
      exact ⟨b', by rw [split.1], split.2⟩
  constructor
  · rintro ⟨split, first⟩
    obtain ⟨before', rfl, split'⟩ := inner split
    refine ⟨before', rfl, split', ?_⟩
    rintro b a rfl
    have length := first (c :: b) a rfl
    simpa using length
  · rintro ⟨before', rfl, split, first⟩
    refine ⟨by rw [split]; rfl, ?_⟩
    intro b a split'
    obtain ⟨b', rfl, later⟩ := inner split'
    simpa using first b' a later

/-- What is dropped is the first occurrence. -/
theorem dropFirst?_eq_some_iff {part text rest : List Char} : dropFirst? part text = some rest ↔
    ∃ before after, FirstOccurrence part text before after ∧ rest = before ++ after := by
  induction text generalizing rest with
  | nil =>
    unfold dropFirst?
    cases part with
    | nil =>
      have first {before after : List Char} : FirstOccurrence [] [] before after ↔
          before = [] ∧ after = [] := firstOccurrence_append
      simp only [List.isEmpty_nil, if_true, Option.some.injEq, first]
      constructor
      · rintro rfl
        exact ⟨[], [], ⟨rfl, rfl⟩, rfl⟩
      · rintro ⟨_, _, ⟨rfl, rfl⟩, rfl⟩
        rfl
    | cons c part =>
      have none (before after : List Char) : ¬ FirstOccurrence (c :: part) [] before after := by
        rintro ⟨split, -⟩
        simp at split
      simp [none]
  | cons c text ih =>
    unfold dropFirst?
    split
    · next h =>
      obtain ⟨after, split⟩ := List.isPrefixOf_iff_prefix.1 h
      rw [← split]
      simp [firstOccurrence_append, @eq_comm _ rest]
    · next h =>
      have later : ¬ part <+: c :: text := by simpa using h
      simp only [Option.map_eq_some_iff, ih, firstOccurrence_cons later]
      constructor
      · rintro ⟨_, ⟨before, after, first, rfl⟩, rfl⟩
        exact ⟨c :: before, after, ⟨before, rfl, first⟩, rfl⟩
      · rintro ⟨_, after, ⟨before, rfl, first⟩, rfl⟩
        exact ⟨before ++ after, ⟨before, after, first, rfl⟩, rfl⟩

/-- Something is dropped just if the part occurs. -/
theorem isSome_dropFirst?_iff {part text : List Char} :
    (dropFirst? part text).isSome = true ↔ part <:+: text := by
  induction text with
  | nil => cases part <;> simp [dropFirst?]
  | cons c text ih =>
    unfold dropFirst?
    rw [List.infix_cons_iff]
    split
    · next h => simp [List.isPrefixOf_iff_prefix.1 h]
    · next h =>
      have later : ¬ part <+: c :: text := by simpa using h
      simp [later, ih]

/-- The column that the name of a join table suggests for the other side: what is left of it
without the first occurrence of the name of this side and the underscores around, and `_id`. -/
def Suggests (joinName entity column : String) : Prop :=
  entity ≠ "" ∧ ∃ before after,
    FirstOccurrence entity.toList joinName.toList before after ∧
    column = String.ofList (Text.trimOf (· == '_') (before ++ after)) ++ "_id"

theorem guessOtherColumn?_eq_some_iff {joinName entity column : String} :
    guessOtherColumn? joinName entity = some column ↔ Suggests joinName entity column := by
  unfold guessOtherColumn? Suggests
  by_cases h : entity = ""
  · simp [h]
  · simp only [String.isEmpty_iff, h, if_false, Option.map_eq_some_iff, dropFirst?_eq_some_iff]
    constructor
    · rintro ⟨_, ⟨before, after, first, rfl⟩, rfl⟩
      exact ⟨h, before, after, first, rfl⟩
    · rintro ⟨-, before, after, first, rfl⟩
      exact ⟨_, ⟨before, after, first, rfl⟩, rfl⟩

/-- A column is suggested just if the name of this side is not empty and occurs. -/
theorem exists_suggests_iff {joinName entity : String} :
    (∃ column, Suggests joinName entity column) ↔
      entity ≠ "" ∧ entity.toList <:+: joinName.toList := by
  simp only [← guessOtherColumn?_eq_some_iff, ← Option.isSome_iff_exists]
  unfold guessOtherColumn?
  by_cases h : entity = ""
  · simp [h]
  · simp [h, isSome_dropFirst?_iff]

/-! ## What a field declares -/

namespace Annotated

/-- The options of a relation through a join table suffice: there is the name of the table, and the
column for the other side is given or suggested by that name. -/
def NamesJoin (entity : String) (a : Annotated) : Prop :=
  ∃ joinName, a.tag.get? "join_name" = some joinName ∧
    ((a.tag.get? "sql_other_id_field").isSome = true ∨
      entity ≠ "" ∧ entity.toList <:+: joinName.toList)

/-- The field has annotations of one relation kind at most, with the options that the kind needs. -/
structure Consistent (entity : String) (a : Annotated) : Prop where
  oneKind : ∀ k k' : RelationKind,
    a.tag.has k.token = true → a.tag.has k'.token = true → k = k'
  join : ∀ k : RelationKind, k.usesJoinTable = true → a.tag.has k.token = true →
    a.NamesJoin entity

/-- The columns of a link are those that the options name. Without options, a foreign key is named
for the field, a reference back for the entity; the join column of this side is named like its
key, and that of the other side as the join table suggests. -/
def Links (entity primaryKey : String) (a : Annotated) : Link → Prop
  | .belongsTo own => own = (a.tag.get? "sql_id_field").getD (Text.snakeCase a.field.name ++ "_id")
  | .hasMany other | .hasOne other =>
    other = (a.tag.get? "sql_other_id_field").getD (entity ++ "_id")
  | .belongsToMany join | .belongsToManyIds join =>
    a.tag.get? "join_name" = some join.joinName ∧
    join.ownColumn = (a.tag.get? "sql_id_field").getD primaryKey ∧
    (a.tag.get? "sql_other_id_field" = some join.otherColumn ∨
      a.tag.get? "sql_other_id_field" = none ∧ Suggests join.joinName entity join.otherColumn)

/-- The field of an entity with the given name and first key column declares the relation. -/
structure Declares (entity primaryKey : String) (a : Annotated) (r : Relation) : Prop where
  kind : a.tag.has r.kind.token = true
  name : r.name = (a.tag.get? "relation_name").getD (Text.snakeCase a.field.name)
  field : r.field = a.field.name
  link : a.Links entity primaryKey r.link

variable {entity primaryKey : String} {a : Annotated} {r : Relation} {k : RelationKind}

theorem mem_kinds : k ∈ a.kinds ↔ a.tag.has k.token = true := by
  simp [kinds, RelationKind.mem_all]

/-- No kind is listed twice. -/
theorem nodup_kinds (a : Annotated) : a.kinds.Nodup :=
  List.Pairwise.filter _ (by decide)

/-- A join is read off just if the options suffice, with the columns that they give it. -/
private theorem join_eq_ok_iff {join : JoinLink} :
    (RelationSource.mk entity primaryKey a.field a.tag).join k = .ok join ↔
      a.Links entity primaryKey (.belongsToMany join) := by
  obtain ⟨joinName, ownColumn, otherColumn⟩ := join
  simp only [RelationSource.join, Links, ← guessOtherColumn?_eq_some_iff]
  cases a.tag.get? "join_name" with
  | none => simp
  | some name =>
    cases a.tag.get? "sql_other_id_field" with
    | some other => simp [@eq_comm _ ownColumn]
    | none =>
      cases hg : guessOtherColumn? name entity <;> simp [@eq_comm _ ownColumn] <;> grind

/-- A link is made of a kind just if it is of the kind, with the columns that are its own. -/
private theorem link_eq_ok_iff {link : Link} :
    (RelationSource.mk entity primaryKey a.field a.tag).link k = .ok link ↔
      link.kind = k ∧ a.Links entity primaryKey link := by
  cases k <;> cases link <;>
    simp [RelationSource.link, RelationSource.foreignKey, RelationSource.backReference,
      RelationSource.fieldName, map_eq_ok_iff, join_eq_ok_iff, Link.kind, Links, @eq_comm String]

/-- A link through a join table has been given or suggested its columns. -/
private theorem namesJoin_of_links {link : Link} (h : a.Links entity primaryKey link)
    (join : link.kind.usesJoinTable = true) : a.NamesJoin entity := by
  have named {j : JoinLink} (h : a.Links entity primaryKey (.belongsToMany j)) :
      a.NamesJoin entity := by
    obtain ⟨name, -, given | ⟨-, suggested⟩⟩ := h
    · exact ⟨j.joinName, name, .inl (by simp [given])⟩
    · exact ⟨j.joinName, name, .inr (exists_suggests_iff.1 ⟨j.otherColumn, suggested⟩)⟩
  cases link with
  | belongsToMany j => exact named h
  | belongsToManyIds j => exact named h
  | belongsTo c | hasMany c | hasOne c => simp [Link.kind, RelationKind.usesJoinTable] at join

private theorem exists_join (h : a.NamesJoin entity) (primaryKey : String) :
    ∃ j, a.Links entity primaryKey (.belongsToMany j) := by
  obtain ⟨joinName, name, h⟩ := h
  cases given : a.tag.get? "sql_other_id_field" with
  | some other => exact ⟨⟨joinName, _, other⟩, name, rfl, .inl given⟩
  | none =>
    rw [given] at h
    obtain ⟨other, suggested⟩ := exists_suggests_iff.2 (h.resolve_left (by simp))
    exact ⟨⟨joinName, _, other⟩, name, rfl, .inr ⟨given, suggested⟩⟩

/-- There is a link of a kind if the options suffice for the kind. -/
private theorem exists_link (h : k.usesJoinTable = true → a.NamesJoin entity)
    (primaryKey : String) : ∃ link : Link, link.kind = k ∧ a.Links entity primaryKey link := by
  cases k with
  | belongsTo => exact ⟨.belongsTo _, rfl, rfl⟩
  | hasMany => exact ⟨.hasMany _, rfl, rfl⟩
  | hasOne => exact ⟨.hasOne _, rfl, rfl⟩
  | belongsToMany =>
    obtain ⟨j, hj⟩ := exists_join (h rfl) primaryKey
    exact ⟨.belongsToMany j, rfl, hj⟩
  | belongsToManyIds =>
    obtain ⟨j, hj⟩ := exists_join (h rfl) primaryKey
    exact ⟨.belongsToManyIds j, rfl, hj⟩

private theorem has_iff_of_kinds {k' : RelationKind} (hk : a.kinds = [k]) :
    a.tag.has k'.token = true ↔ k' = k := by
  rw [← mem_kinds, hk, List.mem_singleton]

/-- A field of one kind is read as the relation that it declares. -/
private theorem relation?_eq_some_iff (hk : a.kinds = [k]) :
    a.relation? entity primaryKey = .ok (some r) ↔ a.Declares entity primaryKey r := by
  obtain ⟨name, field, link⟩ := r
  simp only [relation?, hk, map_eq_ok_iff, link_eq_ok_iff, Option.some.injEq, Relation.mk.injEq]
  constructor
  · rintro ⟨link, ⟨kind, links⟩, rfl, rfl, rfl⟩
    exact ⟨(has_iff_of_kinds hk).2 kind, rfl, rfl, links⟩
  · rintro ⟨kind, name, field, links⟩
    exact ⟨link, ⟨(has_iff_of_kinds hk).1 kind, links⟩, name.symm, field.symm, rfl⟩

private theorem not_has_of_kinds (hk : a.kinds = []) : a.tag.has k.token ≠ true := by
  rw [Ne, ← mem_kinds, hk]
  exact List.not_mem_nil

/-- A field is read just if it is consistent. -/
theorem exists_relation?_iff :
    (∃ found, a.relation? entity primaryKey = .ok found) ↔ a.Consistent entity := by
  match hk : a.kinds with
  | [] =>
    have consistent : a.Consistent entity :=
      ⟨fun _ _ h => absurd h (not_has_of_kinds hk), fun _ _ h => absurd h (not_has_of_kinds hk)⟩
    simp [relation?, hk, consistent]
  | [k] =>
    simp only [relation?, hk, map_eq_ok_iff, link_eq_ok_iff]
    constructor
    · rintro ⟨_, link, ⟨kind, links⟩, -⟩
      refine ⟨fun k₁ k₂ h₁ h₂ => ?_, fun k' join h' => ?_⟩
      · rw [(has_iff_of_kinds hk).1 h₁, (has_iff_of_kinds hk).1 h₂]
      · rw [(has_iff_of_kinds hk).1 h', ← kind] at join
        exact namesJoin_of_links links join
    · intro consistent
      obtain ⟨link, hl⟩ :=
        exists_link (consistent.join k · ((has_iff_of_kinds hk).2 rfl)) primaryKey
      exact ⟨_, link, hl, rfl⟩
  | k :: k' :: rest =>
    have nodup := nodup_kinds a
    have has {k : RelationKind} (mem : k ∈ a.kinds) : a.tag.has k.token = true := mem_kinds.1 mem
    rw [hk] at nodup has
    simp only [relation?, hk, reduceCtorEq, exists_false, false_iff]
    intro consistent
    have same := consistent.oneKind k k' (has (by simp)) (has (by simp))
    simp [same] at nodup

/-- What is read off a field is the relation that it declares, or none if it declares none. -/
theorem eq_some_iff_of_relation? {found : Option Relation}
    (h : a.relation? entity primaryKey = .ok found) :
    found = some r ↔ a.Declares entity primaryKey r := by
  match hk : a.kinds with
  | [] =>
    have silent : ¬ a.Declares entity primaryKey r := fun h => not_has_of_kinds hk h.kind
    obtain rfl : none = found := by simpa [relation?, hk] using h
    simp [silent]
  | [k] => rw [← relation?_eq_some_iff hk, h, Except.ok.injEq]
  | k :: k' :: rest => simp [relation?, hk] at h

/-- A relation is read off a consistent field just if it has the annotation of a kind. -/
theorem exists_some_relation?_iff (h : a.Consistent entity) :
    (∃ r, a.relation? entity primaryKey = .ok (some r)) ↔
      ∃ k : RelationKind, a.tag.has k.token = true := by
  constructor
  · rintro ⟨r, read⟩
    exact ⟨r.kind, ((eq_some_iff_of_relation? read).1 rfl).kind⟩
  · rintro ⟨k, hk⟩
    obtain ⟨found, read⟩ : ∃ found, a.relation? entity primaryKey = .ok found :=
      exists_relation?_iff.2 h
    match kinds : a.kinds with
    | [] => exact absurd hk (not_has_of_kinds kinds)
    | [k'] =>
      rw [relation?, kinds] at read ⊢
      obtain ⟨link, hl, -⟩ := map_eq_ok_iff.1 read
      exact ⟨_, map_eq_ok_iff.2 ⟨link, hl, rfl⟩⟩
    | k₁ :: k₂ :: rest => simp [relation?, kinds] at read

end Annotated

end EntityMap
