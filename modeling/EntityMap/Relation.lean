/-!
# Relations between entities

A relation has a name, the field that holds what it leads to, and a link: the columns by which
the related rows are found. A link carries just the columns that its kind needs.
-/

namespace EntityMap

/-- What a relation field holds: at most one record, a list of records, or a list of keys. -/
inductive Shape where
  | one
  | many
  | ids
  deriving DecidableEq, Repr

/-- The name of the shape in messages. -/
def Shape.name : Shape → String
  | one => "One"
  | many => "Many"
  | ids => "Ids"

/-- The kinds of relation. -/
inductive RelationKind where
  /-- One related row, whose key this row holds. -/
  | belongsTo
  /-- Any number of related rows, which hold the key of this row. -/
  | hasMany
  /-- At most one related row, which holds the key of this row. -/
  | hasOne
  /-- Any number of related rows, paired with this row in a join table. -/
  | belongsToMany
  /-- The keys of the rows paired with this row in a join table. -/
  | belongsToManyIds
  deriving DecidableEq, Repr

namespace RelationKind

/-- Every kind, in the order in which annotations are searched for them. -/
def all : List RelationKind := [belongsTo, hasMany, hasOne, belongsToMany, belongsToManyIds]

theorem mem_all (k : RelationKind) : k ∈ all := by cases k <;> decide

/-- The annotation that declares a relation of the kind. -/
def token : RelationKind → String
  | belongsTo => "belongs_to"
  | hasMany => "has_many"
  | hasOne => "has_one"
  | belongsToMany => "belongs_to_many"
  | belongsToManyIds => "belongs_to_many_ids"

/-- The kind that a token declares. -/
def ofToken? (token : String) : Option RelationKind := all.find? (·.token = token)

/-- The shape of the field that a relation of the kind fills. -/
def shape : RelationKind → Shape
  | belongsTo | hasOne => .one
  | hasMany | belongsToMany => .many
  | belongsToManyIds => .ids

def usesJoinTable : RelationKind → Bool
  | belongsToMany | belongsToManyIds => true
  | belongsTo | hasMany | hasOne => false

end RelationKind

/-- A join table by its logical name, and its two columns. -/
structure JoinLink where
  joinName : String
  /-- The column that holds the key of this side. -/
  ownColumn : String
  /-- The column that holds the key of the other side. -/
  otherColumn : String
  deriving DecidableEq, Repr

/-- How the related rows are found. -/
inductive Link where
  /-- The column of this row that holds the key of the related one. -/
  | belongsTo (ownColumn : String)
  /-- The column of the related rows that holds the key of this one. -/
  | hasMany (otherColumn : String)
  /-- The column of the related row that holds the key of this one. -/
  | hasOne (otherColumn : String)
  | belongsToMany (join : JoinLink)
  | belongsToManyIds (join : JoinLink)
  deriving DecidableEq, Repr

namespace Link

def kind : Link → RelationKind
  | belongsTo _ => .belongsTo
  | hasMany _ => .hasMany
  | hasOne _ => .hasOne
  | belongsToMany _ => .belongsToMany
  | belongsToManyIds _ => .belongsToManyIds

/-- The join table, for the kinds that use one. -/
def join? : Link → Option JoinLink
  | belongsToMany j | belongsToManyIds j => some j
  | _ => none

/-- The column on this side, where the link names one. -/
def ownColumn? : Link → Option String
  | belongsTo c => some c
  | belongsToMany j | belongsToManyIds j => some j.ownColumn
  | _ => none

/-- The column on the other side, where the link names one. -/
def otherColumn? : Link → Option String
  | hasMany c | hasOne c => some c
  | belongsToMany j | belongsToManyIds j => some j.otherColumn
  | belongsTo _ => none

end Link

/-- A named relation. -/
structure Relation where
  name : String
  /-- The field that the related records or keys are loaded into. -/
  field : String
  link : Link
  deriving DecidableEq, Repr

def Relation.kind (r : Relation) : RelationKind := r.link.kind

end EntityMap
