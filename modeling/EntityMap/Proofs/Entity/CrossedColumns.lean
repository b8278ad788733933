import EntityMap.Proofs.Entity.RelationCount
import EntityMap.Proofs.Entity.Tokens

/-!
# Columns of a join table from both sides

Where annotations name a join table and none of its columns, each side takes the column for its own
key from the name of the key, and that for the other key from what is left of the name of the table
without its own name. Both sides mean the same columns if the table is called after both names, with
an underscore between them, and the second name does not occur in it any earlier. The names may
overlap and hold underscores, but for the ends.
-/

namespace EntityMap

/-! ## First occurrences -/

/-- An occurrence is the first just if the part does not begin at any place before. -/
theorem firstOccurrence_iff {part text before after : List Char} :
    FirstOccurrence part text before after ↔
      text = before ++ part ++ after ∧ ∀ i < before.length, ¬ part <+: text.drop i := by
  constructor
  · rintro ⟨split, first⟩
    refine ⟨split, fun i short ⟨rest, begins⟩ => ?_⟩
    have split' : text = text.take i ++ part ++ rest := by
      rw [List.append_assoc, begins, List.take_append_drop]
    have earlier := first (text.take i) rest split'
    rw [List.length_take] at earlier
    omega
  · rintro ⟨split, none⟩
    refine ⟨split, fun before' after' split' => ?_⟩
    by_contra short
    refine none before'.length (Nat.lt_of_not_le short) ⟨after', ?_⟩
    rw [split', List.append_assoc, List.drop_left]

instance (part text before after : List Char) :
    Decidable (FirstOccurrence part text before after) :=
  decidable_of_iff _ firstOccurrence_iff.symm

/-! ## What a name of two parts suggests -/

/-- A name with something in it, and without an underscore at either end. -/
structure IsPlainName (name : String) : Prop where
  nonempty : name ≠ ""
  first : name.toList.head? ≠ some '_'
  last : name.toList.getLast? ≠ some '_'

namespace IsPlainName

variable {name : String} (h : IsPlainName name)
include h

theorem toList_ne_nil : name.toList ≠ [] := by
  rw [Ne, String.toList_eq_nil_iff]
  exact h.nonempty

private theorem keeps_first (c : Char) (hc : name.toList.head? = some c) : (c == '_') = false :=
  beq_false_of_ne fun same => h.first (same ▸ hc)

private theorem keeps_last (c : Char) (hc : name.toList.getLast? = some c) : (c == '_') = false :=
  beq_false_of_ne fun same => h.last (same ▸ hc)

/-- An underscore before the name is trimmed, and nothing else. -/
theorem trimOf_cons : Text.trimOf (· == '_') ('_' :: name.toList) = name.toList := by
  rw [Text.trimOf_cons (p := (· == '_')) rfl, Text.trimOf_eq_dropEnd h.keeps_first,
    Text.dropEnd_eq_self h.keeps_last]

/-- So is one behind it. -/
theorem trimOf_append : Text.trimOf (· == '_') (name.toList ++ ['_']) = name.toList := by
  have first (c : Char) (hc : (name.toList ++ ['_']).head? = some c) : (c == '_') = false := by
    rw [List.head?_append_of_ne_nil _ h.toList_ne_nil] at hc
    exact h.keeps_first c hc
  rw [Text.trimOf_eq_dropEnd first, Text.dropEnd_append_singleton (p := (· == '_')) rfl,
    Text.dropEnd_eq_self h.keeps_last]

end IsPlainName

section Suggestions

variable {a b : String}

theorem toList_joinName (a b : String) :
    (a ++ "_" ++ b).toList = a.toList ++ '_' :: b.toList := by
  rw [String.toList_append, String.toList_append, List.append_assoc]
  rfl

/-- To the side of the first name the table suggests the second. -/
theorem suggests_second (ha : a ≠ "") (hb : IsPlainName b) :
    Suggests (a ++ "_" ++ b) a (b ++ "_id") := by
  refine ⟨ha, [], '_' :: b.toList, ?_, ?_⟩
  · exact ⟨by rw [toList_joinName, List.nil_append], fun _ _ _ => Nat.zero_le _⟩
  · rw [List.nil_append, hb.trimOf_cons, String.ofList_toList]

/-- To the side of the second name it suggests the first, if the second occurs at the end only. -/
theorem suggests_first (ha : IsPlainName a) (hb : b ≠ "")
    (leftmost : FirstOccurrence b.toList (a ++ "_" ++ b).toList (a ++ "_").toList []) :
    Suggests (a ++ "_" ++ b) b (a ++ "_id") := by
  have before : (a ++ "_").toList = a.toList ++ ['_'] := String.toList_append
  refine ⟨hb, _, _, leftmost, ?_⟩
  rw [List.append_nil, before, ha.trimOf_append, String.ofList_toList]

end Suggestions

/-! ## The two sides -/

/-- One side of a join table: an entity that was read under a name, with its first key column called
after the name, and a field of it whose annotations give the join table and none of its columns. -/
structure JoinSide (name joinName : String) (e : Entity) (f : Annotated) : Prop where
  parsed : ∃ given, Entity.ofSchema? e.schema given = .ok e ∧ Entity.nameFor e.schema given = name
  key : e.keyColumns.head? = some (name ++ "_id")
  field : f ∈ Annotated.ofSchema e.schema
  kind : ∃ k : RelationKind, k.usesJoinTable = true ∧ f.tag.has k.token = true
  joinName : f.tag.get? "join_name" = some joinName
  ownColumn : f.tag.get? "sql_id_field" = none
  otherColumn : f.tag.get? "sql_other_id_field" = none

/-- The field declares one relation, which has the join table with its columns; the entity has it
under its name just if no later field declares a relation of that name. -/
def Entity.DeclaresJoin (e : Entity) (f : Annotated) (join : JoinLink) : Prop :=
  ∃ primaryKey rel, e.keyColumns.head? = some primaryKey ∧
    (∀ rel', f.Declares e.name primaryKey rel' ↔ rel' = rel) ∧ rel.link.join? = some join ∧
    (e.relation? rel.name = some rel ↔
      DeclaredLast e.name primaryKey (Annotated.ofSchema e.schema) rel)

/-- A relation that a field declares has a join table if the field has the annotation of a kind that
uses one. -/
theorem Annotated.Declares.exists_join {entity primaryKey : String} {f : Annotated}
    {rel : Relation} (h : f.Declares entity primaryKey rel) (consistent : f.Consistent entity)
    (kind : ∃ k : RelationKind, k.usesJoinTable = true ∧ f.tag.has k.token = true) :
    ∃ join, rel.link.join? = some join ∧ f.Links entity primaryKey (.belongsToMany join) := by
  obtain ⟨k, uses, has⟩ := kind
  obtain rfl : rel.kind = k := consistent.oneKind _ _ h.kind has
  have links := h.link
  cases link : rel.link with
  | belongsToMany join | belongsToManyIds join =>
    rw [link] at links
    exact ⟨join, rfl, links⟩
  | belongsTo c | hasMany c | hasOne c =>
    rw [Relation.kind, link] at uses
    simp [Link.kind, RelationKind.usesJoinTable] at uses

namespace JoinSide

variable {name joinName other : String} {e : Entity} {f : Annotated}

/-- A side takes its own column from its key and the other column from what is suggested. -/
theorem declaresJoin (side : JoinSide name joinName e f)
    (suggested : Suggests joinName name other) :
    e.DeclaresJoin f ⟨joinName, name ++ "_id", other⟩ := by
  obtain ⟨given, read, named⟩ := side.parsed
  obtain ⟨annotated, described⟩ := isDescribedBy_of_ofSchema? read
  rw [named] at annotated described
  have consistent := annotated.relations f side.field
  have related : f.isRelation = true := by
    obtain ⟨k, -, has⟩ := side.kind
    exact Annotated.isRelation_iff.2 ⟨k, has⟩
  obtain ⟨rel, only⟩ := consistent.exists_declares (name ++ "_id") related
  obtain ⟨join, linked, table, own, column⟩ := ((only rel).2 rfl).exists_join consistent side.kind
  refine ⟨name ++ "_id", rel, side.key, by rwa [described.name], ?_, ?_⟩
  · obtain ⟨joinName', ownColumn', otherColumn'⟩ := join
    rw [side.joinName, Option.some.injEq] at table
    rw [side.ownColumn, Option.getD_none] at own
    rw [side.otherColumn] at column
    obtain ⟨-, guessed⟩ := column.resolve_left (by simp)
    subst table own
    rw [← guessOtherColumn?_eq_some_iff] at suggested guessed
    obtain rfl : otherColumn' = other := Option.some.inj (guessed.symm.trans suggested)
    exact linked
  · rw [described.relation, described.name, side.key]
    simp

end JoinSide

/-- Both sides of a join table that is called after them mean the same columns, each its own first:
that of each side has the name of the side and `_id`. The name of the second side must not occur any
earlier in that of the table, and neither name may be empty or have an underscore at an end. -/
theorem joinColumns_crossed {a b : String} (ha : IsPlainName a) (hb : IsPlainName b)
    (leftmost : FirstOccurrence b.toList (a ++ "_" ++ b).toList (a ++ "_").toList [])
    {e e' : Entity} {f f' : Annotated} (side : JoinSide a (a ++ "_" ++ b) e f)
    (side' : JoinSide b (a ++ "_" ++ b) e' f') :
    e.DeclaresJoin f ⟨a ++ "_" ++ b, a ++ "_id", b ++ "_id"⟩ ∧
      e'.DeclaresJoin f' ⟨a ++ "_" ++ b, b ++ "_id", a ++ "_id"⟩ :=
  ⟨side.declaresJoin (suggests_second ha.nonempty hb),
    side'.declaresJoin (suggests_first ha hb.nonempty leftmost)⟩

/-- An entity with a field for the other side, whose annotations give the join table only. -/
private def sideOf (id : Nat) (type name key kind : String) (held : FieldKind) (link : Link) :
    Entity where
  name
  storageName := name
  schema := ⟨⟨id, type⟩, [⟨"id", some key, "pk", .scalar ⟨.string, false⟩, false⟩,
    ⟨"others", none, kind ++ ",join_name=book_cookbook", held, false⟩]⟩
  keyColumns := [key]
  relations := [⟨"others", "others", link⟩]

/-- Books hold their cookbooks. -/
private def bookSide : Entity :=
  sideOf 0 "Book" "book" "book_id" "belongs_to_many" (.many (some ⟨1, "Cookbook"⟩))
    (.belongsToMany ⟨"book_cookbook", "book_id", "cookbook_id"⟩)

/-- Cookbooks hold the keys of their books. -/
private def cookbookSide : Entity :=
  sideOf 1 "Cookbook" "cookbook" "cookbook_id" "belongs_to_many_ids" (.ids ⟨.string, false⟩)
    (.belongsToManyIds ⟨"book_cookbook", "cookbook_id", "book_id"⟩)

/-- The name of the second side ends like that of the first. -/
theorem joinColumns_of_cookbooks :
    IsPlainName "book" ∧ IsPlainName "cookbook" ∧
    FirstOccurrence "cookbook".toList "book_cookbook".toList "book_".toList [] ∧
    Entity.ofSchema? bookSide.schema (some "book") = .ok bookSide ∧
    Entity.ofSchema? cookbookSide.schema (some "cookbook") = .ok cookbookSide ∧
    (∃ f ∈ Annotated.ofSchema bookSide.schema,
      bookSide.DeclaresJoin f ⟨"book_cookbook", "book_id", "cookbook_id"⟩) ∧
    ∃ f ∈ Annotated.ofSchema cookbookSide.schema,
      cookbookSide.DeclaresJoin f ⟨"book_cookbook", "cookbook_id", "book_id"⟩ := by
  have first : IsPlainName "book" := ⟨by decide, by decide, by decide⟩
  have second : IsPlainName "cookbook" := ⟨by decide, by decide, by decide⟩
  have leftmost : FirstOccurrence "cookbook".toList "book_cookbook".toList "book_".toList [] := by
    decide
  have read : Entity.ofSchema? bookSide.schema (some "book") = .ok bookSide := rfl
  have read' : Entity.ofSchema? cookbookSide.schema (some "cookbook") = .ok cookbookSide := rfl
  have mem : _ ∈ Annotated.ofSchema bookSide.schema := .tail _ List.mem_cons_self
  have mem' : _ ∈ Annotated.ofSchema cookbookSide.schema := .tail _ List.mem_cons_self
  have crossed := joinColumns_crossed first second leftmost
    ⟨⟨_, read, rfl⟩, rfl, mem, ⟨.belongsToMany, rfl, rfl⟩, rfl, rfl, rfl⟩
    ⟨⟨_, read', rfl⟩, rfl, mem', ⟨.belongsToManyIds, rfl, rfl⟩, rfl, rfl, rfl⟩
  exact ⟨first, second, leftmost, read, read', ⟨_, mem, crossed.1⟩, ⟨_, mem', crossed.2⟩⟩

end EntityMap
