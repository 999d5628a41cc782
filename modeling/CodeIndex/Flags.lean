/-!
# Flag sets

A set of flags is a 64-bit word. A table names some of its bits; bits without a name are kept and
do not show in listings.
-/
namespace CodeIndex

/-- Names of bits, lowest bit first. -/
structure FlagTable where
  /-- What the set as a whole is called. -/
  title : String
  /-- Each name with the number of its bit. -/
  named : List (String × Nat)

structure Flags (table : FlagTable) where
  bits : UInt64
  deriving DecidableEq, Repr, Inhabited

namespace Flags

variable {table : FlagTable}

def single (bit : Nat) : Flags table := ⟨1 <<< UInt64.ofNat bit⟩

def contains (a b : Flags table) : Bool := a.bits &&& b.bits == b.bits

def intersects (a b : Flags table) : Bool := a.bits &&& b.bits != 0

def isEmpty (a : Flags table) : Bool := a.bits == 0

def union (a b : Flags table) : Flags table := ⟨a.bits ||| b.bits⟩

/-- The names of the flags set, lowest bit first. -/
def names (a : Flags table) : List String :=
  (table.named.filter fun entry => a.contains (single entry.2)).map Prod.fst

def describe (a : Flags table) : String :=
  table.title ++ "(" ++ " | ".intercalate a.names ++ ")"

end Flags

/-- What an occurrence does with its symbol, and how occurrences relate to other symbols. -/
def roleTable : FlagTable where
  title := "SymbolRoles"
  named := [("DECLARATION", 0), ("DEFINITION", 1), ("REFERENCE", 2), ("READ", 3), ("WRITE", 4),
    ("CALL", 5), ("DYNAMIC", 6), ("ADDRESS_OF", 7), ("IMPLICIT", 8), ("REL_CHILD_OF", 9),
    ("REL_BASE_OF", 10), ("REL_OVERRIDE_OF", 11), ("REL_RECEIVED_BY", 12), ("REL_CALLED_BY", 13),
    ("REL_EXTENDED_BY", 14), ("REL_ACCESSOR_OF", 15), ("REL_CONTAINED_BY", 16),
    ("REL_IB_TYPE_OF", 17), ("REL_SPECIALIZATION_OF", 18), ("UNDEFINITION", 19)]

def propertyTable : FlagTable where
  title := "SymbolProperties"
  named := [("GENERIC", 0), ("TEMPLATE_PARTIAL_SPECIALIZATION", 1), ("TEMPLATE_SPECIALIZATION", 2),
    ("UNIT_TEST", 3), ("IB_ANNOTATED", 4), ("IB_OUTLET_COLLECTION", 5), ("GK_INSPECTABLE", 6),
    ("LOCAL", 7), ("PROTOCOL_INTERFACE", 8), ("SWIFT_ASYNC", 16)]

abbrev SymbolRoles := Flags roleTable

abbrev SymbolProperties := Flags propertyTable

end CodeIndex
