/-!
# JSON values and their indented form

Objects keep the order of their members. The indented form puts every member and element on a line
of its own, two blanks deeper than what holds it; empty lists and objects stay on one line.
-/
namespace CodeIndex

inductive Json where
  | null
  | bool (value : Bool)
  | number (value : Int)
  | string (text : String)
  | array (elements : List Json)
  | object (members : List (String × Json))
  deriving Repr, Inhabited

namespace Json

/-- A hexadecimal digit of `n`, counted from the right. -/
def hexDigitAt (n place : Nat) : Char := Nat.digitChar ((n >>> (4 * place)) % 16)

def escapeChar (c : Char) : String :=
  if c = '"' then "\\\""
  else if c = '\\' then "\\\\"
  else if c = '\n' then "\\n"
  else if c = '\r' then "\\r"
  else if c = '\t' then "\\t"
  else if c = '\x08' then "\\b"
  else if c = '\x0c' then "\\f"
  else if c.toNat < 0x20 then
    "\\u00" ++ String.ofList [hexDigitAt c.toNat 1, hexDigitAt c.toNat 0]
  else c.toString

def renderString (s : String) : String := "\"" ++ String.join (s.toList.map escapeChar) ++ "\""

/-- A new line indented for `depth` levels. -/
def newLine (depth : Nat) : String := "\n" ++ String.ofList (List.replicate (2 * depth) ' ')

/-- Parts on lines of their own between two brackets. -/
def renderLines (opening closing : String) (depth : Nat) (parts : List String) : String :=
  if parts.isEmpty then opening ++ closing
  else opening ++ newLine (depth + 1) ++ ("," ++ newLine (depth + 1)).intercalate parts
    ++ newLine depth ++ closing

mutual

def render (depth : Nat) : Json → String
  | .null => "null"
  | .bool value => if value then "true" else "false"
  | .number value => toString value
  | .string text => renderString text
  | .array elements => renderLines "[" "]" depth (renderElements (depth + 1) elements)
  | .object members => renderLines "\x7b" "\x7d" depth (renderMembers (depth + 1) members)

def renderElements (depth : Nat) : List Json → List String
  | [] => []
  | e :: rest => render depth e :: renderElements depth rest

def renderMembers (depth : Nat) : List (String × Json) → List String
  | [] => []
  | (key, value) :: rest =>
    (renderString key ++ ": " ++ render depth value) :: renderMembers depth rest

end

def pretty (value : Json) : String := render 0 value

end Json

end CodeIndex
