import SchemaCheck.Json.Token
/-!
# Tree — a JSON text as a tree with its positions

The first value of a text becomes a tree (`Tree.ofText`); what follows it is not looked at.  A flaw does not
prevent the tree: it stands in it where the text is flawed, as a leaf or as the ending of a list or an object, so
that a reader of the tree meets it exactly when everything before it has been read.  The tree is built from the
tokens with the lists and objects that are still open on a stack.
-/
namespace SchemaCheck.Json

/-- The name of a member of an object. -/
structure Name where
  token : Token
  text : Except Problem String
  /-- After the blanks that follow the name, and after the end of the object if it follows. -/
  settled : Position
  /-- The same after the value of the member. -/
  valueSettled : Position
  deriving Inhabited

/-- How a list or an object ends. -/
inductive Ending where
  /-- With its closing bracket. -/
  | closed (bracket : Token)
  /-- Where something else is found instead of an element, a name, a comma or the closing bracket. -/
  | flawed (flaw : Flaw) (position : Position) (found : Token)
  /-- At a name with a flaw, as it shows when the name is read and when it is passed over. -/
  | badName (reading skipping : Problem)
  /-- After a name without a colon. -/
  | noColon (name : Name) (flaw : Flaw) (position : Position)
  deriving Inhabited

inductive Tree where
  /-- A value that is neither a list nor an object, or whatever stands where a value should. -/
  | leaf (t : Token)
  | list (opening : Token) (items : List Tree) (ending : Ending)
  | object (opening : Token) (members : List (Name × Tree)) (ending : Ending)

instance : Inhabited Tree := ⟨.leaf default⟩

/-- The token that a value starts with. -/
def Tree.first : Tree → Token
  | .leaf t => t
  | .list t _ _ => t
  | .object t _ _ => t

/-! ## Open lists and objects -/

inductive Open where
  /-- Items so far, last one first. -/
  | list (opening : Token) (items : List Tree)
  /-- Members so far, last one first. -/
  | object (opening : Token) (members : List (Name × Tree))
  /-- A member whose value is being read, in the object below. -/
  | member (name : Name)
  deriving Inhabited

/-- What may come next. -/
inductive Awaited where
  | value
  | firstItem | itemEnd | nextItem
  | firstName | memberEnd | nextName
  | colon (name : Name)
  deriving Inhabited

/-- What has come of the tokens so far: the whole tree, or something that may come next. -/
inductive Progress where
  | done (t : Tree)
  | more (a : Awaited) (stack : List Open)
  deriving Inhabited

/-- Puts a broken value into everything that is open around it. -/
def abandon (p : Problem) (t : Token) : Tree → List Open → Tree
  | v, [] => v
  | v, .list o items :: rest =>
    abandon p t (.list o (v :: items).reverse (.flawed p.flaw p.position t)) rest
  | v, .member n :: .object o members :: rest =>
    abandon p t (.object o ((n, v) :: members).reverse (.flawed p.flaw p.position t)) rest
  | v, _ :: rest => abandon p t v rest

/-- Where a complete value goes: it is the whole, or something else may come next. -/
def place : Tree → List Open → Progress
  | v, [] => .done v
  | v, .list o items :: rest => .more .itemEnd (.list o (v :: items) :: rest)
  | v, .member n :: .object o members :: rest => .more .memberEnd (.object o ((n, v) :: members) :: rest)
  | _, _ :: rest => .more .value rest

/-- The position before a token, or after it if it closes an object. -/
def settledAt (t : Token) : Position :=
  match t.lexeme with
  | .mark '\x7d' => t.stop
  | _ => t.start

/-- The latest member with the position after its value. -/
def settleMember (t : Token) : List (Name × Tree) → List (Name × Tree)
  | [] => []
  | (n, v) :: rest => ({ n with valueSettled := settledAt t }, v) :: rest

/-! ## Building -/

/-- The flaw when a token is not what may come next. -/
def flawAt (a : Awaited) (t : Token) : Problem :=
  let atEnd (unended other : Flaw) : Problem :=
    match t.lexeme with
    | .finish => ⟨unended, t.start⟩
    | _ => ⟨other, t.peek⟩
  match a with
  | .value => atEnd .valueMissing .valueStray
  | .firstItem => atEnd .listUnended .valueStray
  | .itemEnd => atEnd .listUnended .listNoComma
  | .nextItem => atEnd .listCommaUnended .valueStray
  | .firstName => atEnd .objectUnended .nameNoString
  | .memberEnd => atEnd .objectUnended .objectNoComma
  | .nextName => atEnd .objectCommaUnended .nameNoString
  | .colon _ => atEnd .colonUnended .colonMissing

/-- Ends the innermost open list or object where a token is not what may come next. -/
def endAt (p : Problem) (t : Token) : List Open → Tree
  | .list o items :: rest => abandon p t (.list o items.reverse (.flawed p.flaw p.position t)) rest
  | .object o members :: rest => abandon p t (.object o members.reverse (.flawed p.flaw p.position t)) rest
  | stack => abandon p t (.leaf t) stack

/-- What a value that starts with a token amounts to: a complete value, something more to come, or the whole tree.
-/
def startValue (t : Token) (stack : List Open) : Progress :=
  match t.lexeme with
  | .mark '[' => .more .firstItem (.list t [] :: stack)
  | .mark '\x7b' => .more .firstName (.object t [] :: stack)
  | .null | .bool _ | .number _ => place (.leaf t) stack
  | .string content =>
    match content.skipping with
    | none => place (.leaf t) stack
    | some p => .done (abandon p t (.leaf t) stack)
  | .flawed p => .done (abandon p t (.leaf t) stack)
  | _ => .done (abandon (flawAt .value t) t (.leaf t) stack)

/-- The name that a token is, if it is a string. -/
def startName (a : Awaited) (t : Token) (stack : List Open) : Progress :=
  match t.lexeme with
  | .string content =>
    match content.skipping with
    | none => .more (.colon ⟨t, content.text, t.stop, t.stop⟩) stack
    | some p =>
      let reading := match content.text with
        | .error q => q
        | .ok _ => p
      match stack with
      | .object o members :: rest => .done (abandon p t (.object o members.reverse (.badName reading p)) rest)
      | stack => .done (endAt p t stack)
  | _ => .done (endAt (flawAt a t) t stack)

/-- Takes one token. -/
def takeToken (a : Awaited) (stack : List Open) (t : Token) : Progress :=
  match a, t.lexeme, stack with
  | .value, _, _ => startValue t stack
  | .firstItem, .mark ']', .list o items :: rest => place (.list o items.reverse (.closed t)) rest
  | .firstItem, .finish, _ => .done (endAt (flawAt .firstItem t) t stack)
  | .firstItem, _, _ => startValue t stack
  | .itemEnd, .mark ']', .list o items :: rest => place (.list o items.reverse (.closed t)) rest
  | .itemEnd, .mark ',', _ => .more .nextItem stack
  | .itemEnd, _, _ => .done (endAt (flawAt .itemEnd t) t stack)
  | .nextItem, .mark ']', _ => .done (endAt ⟨.listComma, t.peek⟩ t stack)
  | .nextItem, .finish, _ => .done (endAt (flawAt .nextItem t) t stack)
  | .nextItem, _, _ => startValue t stack
  | .firstName, .mark '\x7d', .object o members :: rest => place (.object o members.reverse (.closed t)) rest
  | .firstName, _, _ => startName .firstName t stack
  | .memberEnd, .mark '\x7d', .object o members :: rest =>
    place (.object o (settleMember t members).reverse (.closed t)) rest
  | .memberEnd, .mark ',', .object o members :: rest => .more .nextName (.object o (settleMember t members) :: rest)
  | .memberEnd, _, .object o members :: rest =>
    .done (endAt (flawAt .memberEnd t) t (.object o (settleMember t members) :: rest))
  | .memberEnd, _, _ => .done (endAt (flawAt .memberEnd t) t stack)
  | .nextName, .mark '\x7d', _ => .done (endAt ⟨.objectComma, t.peek⟩ t stack)
  | .nextName, _, _ => startName .nextName t stack
  | .colon n, .mark ':', _ => .more .value (.member { n with settled := settledAt t } :: stack)
  | .colon n, _, .object o members :: rest =>
    let p := flawAt (.colon n) t
    let stop := .noColon { n with settled := settledAt t } p.flaw p.position
    .done (abandon p t (.object o members.reverse stop) rest)
  | .colon n, _, _ => .done (endAt (flawAt (.colon n) t) t stack)

/-- Takes tokens until the tree is complete or flawed. -/
def build (a : Awaited) (stack : List Open) : List Token → Tree
  | [] => endAt ⟨.valueMissing, Position.start⟩ default stack
  | t :: rest =>
    match takeToken a stack t with
    | .done tree => tree
    | .more next stack => build next stack rest

/-- The first value of a text. -/
def Tree.ofText (text : String) : Tree := build .value [] (tokens text)

/-! ## Passing over -/

/-- The flaw of a token where a value is passed over. -/
def Token.skipFlaw? (t : Token) : Option Problem :=
  match t.lexeme with
  | .null | .bool _ | .number _ => none
  | .string content => content.skipping
  | .flawed p => some p
  | _ => some (flawAt .value t)

/-- The flaw of an ending. -/
def Ending.flaw? : Ending → Option Problem
  | .closed _ => none
  | .flawed flaw position _ => some ⟨flaw, position⟩
  | .badName _ skipping => some skipping
  | .noColon _ flaw position => some ⟨flaw, position⟩

mutual

/-- The first flaw met when a value is passed over. -/
def Tree.skipFlaw? : Tree → Option Problem
  | .leaf t => t.skipFlaw?
  | .list _ items ending => (Tree.itemsSkipFlaw? items).or ending.flaw?
  | .object _ members ending => (Tree.membersSkipFlaw? members).or ending.flaw?

def Tree.itemsSkipFlaw? : List Tree → Option Problem
  | [] => none
  | t :: rest => t.skipFlaw?.or (Tree.itemsSkipFlaw? rest)

def Tree.membersSkipFlaw? : List (Name × Tree) → Option Problem
  | [] => none
  | (_, t) :: rest => t.skipFlaw?.or (Tree.membersSkipFlaw? rest)

end

end SchemaCheck.Json
