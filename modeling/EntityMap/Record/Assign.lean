import EntityMap.Record

/-!
# Assigning contents

Several fields of a record are set in one go. The fields are set in the order given, each by the
rule for a field of its kind; the first failure ends the assignment and leaves what was set before.
A relation field that gives no access keeps what it holds, whatever it is to be given.
-/

namespace EntityMap

mutual

/-- A content to be given to a field. -/
inductive Content where
  /-- A value for a stored scalar. -/
  | value (v : Value)
  /-- Contents for fields of an embedded record. -/
  | embedded (parts : List Part)
  /-- No related record. -/
  | absent
  /-- A new related record. -/
  | one (parts : List Part)
  /-- New related records. -/
  | many (records : List (List Part))
  | ids (values : List Value)

/-- A field, by its index, and its new content. -/
structure Part where
  index : Nat
  content : Content

end

/-- What a field holds that is open to access. -/
def Record.openKind? (r : Record) (i : Nat) : Option FieldKind :=
  (r.schema.fields[i]?).bind fun f => if f.guarded then none else some f.kind

mutual

/-- The record after the assignments, and the error that ended them, if any did. -/
def Record.assign (catalog : Catalog) (r : Record) : List Part → Record × Option Error
  | [] => (r, none)
  | p :: rest =>
    match Record.assignPart catalog r p with
    | (r, some e) => (r, some e)
    | (r, none) => Record.assign catalog r rest

/-- One assignment. -/
def Record.assignPart (catalog : Catalog) (r : Record) : Part → Record × Option Error
  | ⟨i, content⟩ =>
    match content with
    | .value v =>
      match r.set i v with
      | .ok r => (r, none)
      | .error e => (r, some e)
    | .embedded parts =>
      match r.embedded? i with
      | none => (r, none)
      | some inner =>
        match Record.assign catalog inner parts with
        | (inner, e) => (r.put i (.embedded inner), e)
    | .absent =>
      match r.openKind? i with
      | none => (r, none)
      | some _ => (r.put i (.one none), none)
    | .one parts =>
      match (r.openKind? i).bind (·.target?) with
      | none => (r, none)
      | some target =>
        match Record.assign catalog (catalog target).initial parts with
        | (related, none) => (r.put i (.one (some related)), none)
        | (_, some e) => (r, some e)
    | .many records =>
      match (r.openKind? i).bind (·.target?) with
      | none => (r, none)
      | some target =>
        match Record.build catalog (catalog target) records with
        | .ok related => (r.put i (.many related), none)
        | .error e => (r, some e)
    | .ids values =>
      match r.openKind? i with
      | some (.ids element) =>
        match values.mapM (element.decode firstColumn) with
        | .ok values => (r.put i (.ids values), none)
        | .error e => (r, some e)
      | _ => (r, none)

/-- New records of a schema with the given contents. -/
def Record.build (catalog : Catalog) (s : Schema) : List (List Part) → Except Error (List Record)
  | [] => .ok []
  | parts :: rest =>
    match Record.assign catalog s.initial parts with
    | (_, some e) => .error e
    | (r, none) =>
      match Record.build catalog s rest with
      | .ok rs => .ok (r :: rs)
      | .error e => .error e

end

end EntityMap
