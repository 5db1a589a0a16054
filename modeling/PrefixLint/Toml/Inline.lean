import PrefixLint.Toml.Scalar

/-!
# Arrays and inline tables

An array may spread over lines, with comments, and may end with a comma; an inline table stays on
its line and may not. A nest that stands inside an inline table is closed once the next member
begins. Reading a nest takes room, of which there is a fixed amount, so nests go only so deep.
-/

namespace PrefixLint.Toml

open Text

def skipSpaceFrom (inComment : Bool) (text : List Char) (cs : Rest text) : Scanned Unit text :=
  match cs with
  | ⟨[], hcs⟩ => .ok ((), ⟨[], hcs⟩)
  | ⟨c :: rest, hcs⟩ =>
    if inComment then
      if isControl c && c ≠ '\n' then .error (.malformed (.foundInvalid c) (c :: rest))
      else skipSpaceFrom (c ≠ '\n') text ⟨rest, (List.suffix_cons c rest).trans hcs⟩
    else if isBlankOrNewline c || c = '#' then
      skipSpaceFrom (c = '#') text ⟨rest, (List.suffix_cons c rest).trans hcs⟩
    else
      .ok ((), ⟨c :: rest, hcs⟩)
termination_by cs.1.length
decreasing_by all_goals exact Nat.lt_succ_self _

def skipSpace : Scan Unit := skipSpaceFrom false

def keyAndEquals : Scan Key := do
  let k ← key
  if ← Scan.accept "=" then
    Scan.skipWhile isBlank
    return k
  else
    fail .expectedEquals

def isClosed (closed : List Key) (k : Key) : Bool := closed.any (·.isPrefixOf k)

def addInline (closed : List Key) (k : Key) (v : Value) (t : Table) : Except Cause Table :=
  if isClosed closed k then .error (.frozen k)
  else
    let name := k.getLast?.getD ""
    match Table.update false (Table.insertNew name v) k.dropLast t with
    | .ok t => .ok t
    | .error .noTable => .error .overwritten
    | .error .taken => .error (.duplicateInlineKey name)

def simpleValue : Scan Value := do
  let cs ← Scan.left
  if "\"\"\"".toList.isPrefixOf cs then Value.text <$> multilineBasic
  else if "'''".toList.isPrefixOf cs then Value.text <$> multilineLiteral
  else if cs.head? = some '"' then Value.text <$> basicString
  else if cs.head? = some '\'' then Value.text <$> literalString
  else scalar

/-- The forms of values, as far as they differ in the room that their reading takes. -/
inductive Form where
  | array
  | commentedArray
  | emptyTable
  | inlineTable
  | multilineBasic
  | multilineLiteral
  | basic
  | literal
  | truth
  | number
  deriving DecidableEq, Repr

def Form.of : List Char → Form
  | '[' :: rest =>
    if (rest.dropWhile isBlankOrNewline).head? = some '#' then .commentedArray else .array
  | '{' :: rest => if (rest.dropWhile isBlank).head? = some '}' then .emptyTable else .inlineTable
  | '"' :: '"' :: '"' :: _ => .multilineBasic
  | '\'' :: '\'' :: '\'' :: _ => .multilineLiteral
  | '"' :: _ => .basic
  | '\'' :: _ => .literal
  | 't' :: _ | 'f' :: _ => .truth
  | _ => .number

/-- What the reading of a value is refused with when there is no room at all, room for one step and
so on. With room for more steps it is not refused. -/
def Form.shortages : Form → List Shortage
  | .array => [.plain, .plain, .plain]
  | .commentedArray => [.plain, .plain, .plain, .plain, .calling]
  | .emptyTable => [.plain, .calling, .plain]
  | .inlineTable => [.plain, .calling, .plain, .plain, .plain]
  | .multilineBasic => [.calling, .calling, .calling]
  | .multilineLiteral => [.calling, .calling, .calling]
  | .basic => [.calling, .plain]
  | .literal => [.calling, .plain, .calling]
  | .truth => [.calling]
  | .number => [.calling, .calling]

/-- The room that an array and an inline table take away from the values in them. -/
def arrayRoom : Nat := 2
def inlineTableRoom : Nat := 3

mutual

def value (room : Nat) (cs : List Char) : Scanned Value cs :=
  match (Form.of cs).shortages[room]? with
  | some shortage => .error (.tooDeep shortage)
  | none =>
    match after? '[' cs with
    | some ⟨rest, hrest⟩ =>
      match skipSpace rest (.whole rest) with
      | .error e => .error e
      | .ok (_, ⟨start, hstart⟩) =>
        have hlt := hrest.before hstart
        match after? ']' start with
        | some ⟨next, hnext⟩ => .ok (.list [], ⟨next, (hnext.trans hlt).suffix⟩)
        | none => arrayItems (room - arrayRoom) [] cs ⟨start, hlt.suffix⟩
    | none =>
      match after? '{' cs with
      | some ⟨rest, hrest⟩ =>
        match (Rest.whole rest).dropWhile isBlank with
        | ⟨start, hstart⟩ =>
          have hlt := hrest.before hstart
          match after? '}' start with
          | some ⟨next, hnext⟩ => .ok (.table [], ⟨next, (hnext.trans hlt).suffix⟩)
          | none => inlineMembers (room - inlineTableRoom) [] [] cs ⟨start, hlt.suffix⟩
      | none => simpleValue cs (.whole cs)
termination_by (cs.length, 0)
decreasing_by all_goals exact Prod.Lex.left _ _ hlt.shorter

def arrayItems (room : Nat) (done : List Value) (text : List Char) (cs : Rest text) :
    Scanned Value text :=
  match value room cs.1 with
  | .error e => .error e
  | .ok (v, ⟨afterValue, hvalue⟩) =>
    match skipSpace afterValue (.whole afterValue) with
    | .error e => .error e
    | .ok (_, ⟨stop, hstop⟩) =>
      have hitem := hstop.trans hvalue
      match after? ']' stop with
      | some ⟨next, hnext⟩ =>
        .ok (.list (v :: done).reverse, ⟨next, (hnext.within (hitem.trans cs.2)).suffix⟩)
      | none =>
        match after? ',' stop with
        | none => .error (.malformed .unclosedArray stop)
        | some ⟨rest, hrest⟩ =>
          match skipSpace rest (.whole rest) with
          | .error e => .error e
          | .ok (_, ⟨start, hstart⟩) =>
            have hlt := (hrest.within hitem).before hstart
            match after? ']' start with
            | some ⟨next, hnext⟩ =>
              .ok (.list (v :: done).reverse, ⟨next, ((hnext.trans hlt).within cs.2).suffix⟩)
            | none => arrayItems room (v :: done) text ⟨start, hlt.suffix.trans cs.2⟩
termination_by (cs.1.length, 1)
decreasing_by
  · exact Prod.Lex.right _ Nat.zero_lt_one
  · exact Prod.Lex.left _ _ hlt.shorter

def inlineMembers (room : Nat) (closed : List Key) (t : Table) (text : List Char)
    (cs : Rest text) : Scanned Value text :=
  match keyAndEquals cs.1 (.whole cs.1) with
  | .error e => .error e
  | .ok (k, ⟨beforeValue, hkey⟩) =>
    match value room beforeValue with
    | .error e => .error e
    | .ok (v, ⟨afterValue, hvalue⟩) =>
      match addInline closed k v t with
      | .error cause => .error (.malformed cause afterValue)
      | .ok t =>
        match (Rest.whole afterValue).dropWhile isBlank with
        | ⟨stop, hstop⟩ =>
          have hitem := hstop.trans (hvalue.trans hkey)
          match after? '}' stop with
          | some ⟨next, hnext⟩ =>
            .ok (.table t, ⟨next, (hnext.within (hitem.trans cs.2)).suffix⟩)
          | none =>
            match after? ',' stop with
            | none => .error (.malformed .unclosedInlineTable stop)
            | some ⟨rest, hrest⟩ =>
              match (Rest.whole rest).dropWhile isBlank with
              | ⟨start, hstart⟩ =>
                have hlt := (hrest.within hitem).before hstart
                inlineMembers room (if v.isNest then k :: closed else closed) t text
                  ⟨start, hlt.suffix.trans cs.2⟩
termination_by (cs.1.length, 1)
decreasing_by
  · exact Prod.Lex.right' _ hkey.length_le Nat.zero_lt_one
  · exact Prod.Lex.left _ _ hlt.shorter

end

def anyValue (room : Nat) : Scan Value := fun _ cs =>
  match value room cs.1 with
  | .error e => .error e
  | .ok (v, rest) => .ok (v, ⟨rest.1, rest.2.trans cs.2⟩)

end PrefixLint.Toml
