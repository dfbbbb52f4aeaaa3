/-
**From tokens to a JSON value.**

A document is read token by token. What is open around the current place is a stack of frames, so
a document may be nested as deeply as it likes. `Reading` says what may come next; every state has
exactly the information that its continuation needs. No comma stands behind a last item, and nothing
behind the value of the document.
-/

import ComputeHost.Json.Token

namespace ComputeHost.Json

/-- A container that waits for a value, with what it holds so far, the last one first. -/
inductive Frame
  | array (items : List Json)
  | object (members : List (Option String × Json)) (key : Option String)

/-- A place in a document. -/
inductive Reading
  /-- A value must come. -/
  | value (frames : List Frame)
  /-- An array has just been opened. -/
  | arrayStart (frames : List Frame)
  /-- An item of an array has ended. -/
  | arrayNext (items : List Json) (frames : List Frame)
  /-- An object has just been opened. -/
  | objectStart (frames : List Frame)
  /-- A key must come. -/
  | key (members : List (Option String × Json)) (frames : List Frame)
  /-- A colon must come. -/
  | colon (members : List (Option String × Json)) (key : Option String) (frames : List Frame)
  /-- A member of an object has ended. -/
  | objectNext (members : List (Option String × Json)) (frames : List Frame)
  /-- The document has ended. -/
  | done (value : Json)

namespace Reading

/-- The place after a value. -/
def supply (item : Json) : List Frame → Reading
  | [] => .done item
  | .array items :: frames => .arrayNext (item :: items) frames
  | .object members name :: frames => .objectNext ((name, item) :: members) frames

/-- The place after the first token of a value. -/
def begin? (frames : List Frame) : Token → Option Reading
  | .openArray => some (.arrayStart frames)
  | .openObject => some (.objectStart frames)
  | .null => some (supply .null frames)
  | .bool truth => some (supply (.bool truth) frames)
  | .number numeral => some (supply (.number numeral) frames)
  | .text string => some (supply (.text string) frames)
  | _ => none

/-- The place after one more token, if it may stand there. -/
def step? : Reading → Token → Option Reading
  | value frames, token => begin? frames token
  | arrayStart frames, .closeArray => some (supply (.array []) frames)
  | arrayStart frames, token => begin? (.array [] :: frames) token
  | arrayNext items frames, .comma => some (.value (.array items :: frames))
  | arrayNext items frames, .closeArray => some (supply (.array items.reverse) frames)
  | objectStart frames, .closeObject => some (supply (.object []) frames)
  | objectStart frames, .text name => some (.colon [] name frames)
  | key members frames, .text name => some (.colon members name frames)
  | colon members name frames, .colon => some (.value (.object members name :: frames))
  | objectNext members frames, .comma => some (.key members frames)
  | objectNext members frames, .closeObject => some (supply (.object members.reverse) frames)
  | _, _ => none

/-- The value of a document that has ended. -/
def result? : Reading → Option Json
  | done item => some item
  | _ => none

end Reading

/-- The value that tokens spell. -/
def ofTokens? (tokens : List Token) : Option Json :=
  (tokens.foldlM Reading.step? (.value [])).bind Reading.result?

/-- The value of a document. -/
def ofText? (document : String) : Option Json := (tokens? document.toList).bind ofTokens?

end ComputeHost.Json
