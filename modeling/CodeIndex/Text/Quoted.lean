import CodeIndex.Text.Printable
import CodeIndex.Text.Extending
/-!
# Quoted text and described values

Text between double quotes in which every character can be told apart: quotes, backslashes and the
usual controls take a backslash, and all that does not print or attaches to what stands before it
is written by its code point. Values are described as `Name { field: value, .. }`.
-/
namespace CodeIndex.Text

def hexadecimal (n : Nat) : String := String.ofList (Nat.toDigits 16 n)

def quoteChar (c : Char) : String :=
  if c = '\x00' then "\\0"
  else if c = '\t' then "\\t"
  else if c = '\r' then "\\r"
  else if c = '\n' then "\\n"
  else if c = '\\' then "\\\\"
  else if c = '"' then "\\\""
  else if isExtending c || !isPrintable c then "\\u\x7b" ++ hexadecimal c.toNat ++ "\x7d"
  else c.toString

def quote (s : String) : String := "\"" ++ String.join (s.toList.map quoteChar) ++ "\""

/-- A record with its fields, each given with its description. -/
def describeRecord (name : String) (fields : List (String × String)) : String :=
  name ++ " \x7b " ++ ", ".intercalate (fields.map fun f => f.1 ++ ": " ++ f.2) ++ " \x7d"

/-- A record some of whose fields are left out. -/
def describePartRecord (name : String) (fields : List (String × String)) : String :=
  name ++ " \x7b " ++ ", ".intercalate (fields.map (fun f => f.1 ++ ": " ++ f.2) ++ [".."])
    ++ " \x7d"

def describeWrapped (name value : String) : String := name ++ "(" ++ value ++ ")"

def describeOption : Option String → String
  | none => "None"
  | some value => describeWrapped "Some" value

end CodeIndex.Text
