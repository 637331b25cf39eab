/-
This file holds the ports of a kernel and the roles they play. A port is declared by a role tag and
a name; every role but the register occupies a memory bank.
-/

namespace KernelExport

/-- The role that a port plays. -/
inductive Role where
  /-- A memory bank that is only read. -/
  | constant
  /-- A memory bank for input. -/
  | input
  /-- A memory bank for output. -/
  | output
  /-- A memory bank for input and output. -/
  | bidirectional
  /-- A configuration register. -/
  | register
  deriving DecidableEq, Repr

namespace Role

def all : List Role := [.constant, .input, .output, .bidirectional, .register]

def tag : Role → String
  | .constant => "a3const_t"
  | .input => "a3in_t"
  | .output => "a3out_t"
  | .bidirectional => "a3inout_t"
  | .register => "a3reg_t"

def ofTag? (tag : String) : Option Role :=
  all.find? (·.tag == tag)

/-- Whether ports of the role occupy a memory bank. -/
def isMemory (role : Role) : Bool :=
  role != .register

theorem ofTag?_tag (role : Role) : ofTag? role.tag = some role := by
  cases role <;> decide

theorem tag_of_ofTag? {tag : String} {role : Role} (found : ofTag? tag = some role) :
    role.tag = tag := by
  simpa using List.find?_some found

end Role

/-- A port as kernel source declares it. -/
structure Port where
  role : Role
  name : String
  /-- The byte offset of the declaring argument in the source. -/
  offset : Nat
  deriving DecidableEq, Repr

/-- A port with its register number or the number of its memory bank. -/
structure PlacedPort where
  role : Role
  name : String
  index : Nat
  deriving DecidableEq, Repr

end KernelExport
