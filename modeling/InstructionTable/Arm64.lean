import InstructionTable.Template

/-!
# The ARM64 table

A small table of A64 instructions: moves, branches, an exclusive load, and the system instructions
with their overlapping patterns, the more specific ones first.
-/

namespace InstructionTable
namespace Arm64

/-- The instructions of the table, in order. -/
def descriptions : List Description :=
  [ { name := "NOP"
      bits := "11010101000000110010000000011111"
      arch := "ARMv8"
      assembly := "NOP"
      code := "// do nothing"
      aliasOf := "HINT" },
    { name := "ADD"
      bits := "sf|0|0|100010|sh|imm12:12|Rn:5|Rd:5"
      arch := "ARMv8"
      assembly := "ADD <Xd|SP>, <Xn|SP>, #<imm>\x7b, <shift>\x7d"
      code := "X[d] = AddWithCarry(X[n], imm, '0');"
      aliasOf := "" },
    { name := "MOVZ"
      bits := "sf|10|100101|hw:2|imm16:16|Rd:5"
      arch := "ARMv8"
      assembly := "MOVZ <Xd>, #<imm>\x7b, LSL #<shift>\x7d"
      code := "X[d] = ZeroExtend(imm16 << (hw * 16));"
      aliasOf := "MOV" },
    { name := "MOV"
      bits := "sf|01|01010|00|0|Rm:5|000000|11111|Rd:5"
      arch := "ARMv8"
      assembly := "MOV <Xd>, <Xm>"
      code := "X[d] = X[m];"
      aliasOf := "ORR" },
    { name := "B"
      bits := "0|00101|imm26:26"
      arch := "ARMv8"
      assembly := "B <label>"
      code := "BranchTo(PC[] + SignExtend(imm26:'00', 64), BranchType_DIR);"
      aliasOf := "" },
    { name := "BL"
      bits := "1|00101|imm26:26"
      arch := "ARMv8"
      assembly := "BL <label>"
      code := "X[30] = PC[] + 4; BranchTo(PC[] + SignExtend(imm26:'00', 64), BranchType_DIRCALL);"
      aliasOf := "" },
    { name := "RET"
      bits := "1101011|0|0|10|11111|0000|0|0|Rn:5|00000"
      arch := "ARMv8"
      assembly := "RET \x7b<Xn>\x7d"
      code := "BranchTo(X[n], BranchType_RET);"
      aliasOf := "" },
    { name := "LDAXR"
      bits := "size:2|001000|0|1|0|(1):5|1|(1):5|Rn:5|Rt:5"
      arch := "ARMv8"
      assembly := "LDAXR <Xt>, [<Xn|SP>\x7b,#0\x7d]"
      code := "X[t] = MemO[X[n], 8, AccType_ORDEREDEX];"
      aliasOf := "" },
    { name := "AT"
      bits := "1101010100|0|01|op1:3|0111|100|CRm0:1|op2:3|Rt:5"
      arch := "ARMv8"
      assembly := "AT <at_op>, <Xt>"
      code := "AArch64.SysInstr(1, op1, 7, CRm, op2, t);"
      aliasOf := "SYS" },
    { name := "DC"
      bits := "1101010100|0|01|op1:3|0111|CRm:4|op2:3|Rt:5"
      arch := "ARMv8"
      assembly := "DC <dc_op>, <Xt>"
      code := "AArch64.SysInstr(1, op1, 7, CRm, op2, t);"
      aliasOf := "SYS" },
    { name := "IC"
      bits := "1101010100|0|01|op1:3|0111|CRm:4|op2:3|Rt:5"
      arch := "ARMv8"
      assembly := "IC <ic_op>\x7b, <Xt>\x7d"
      code := "AArch64.SysInstr(1, op1, 7, CRm, op2, t);"
      aliasOf := "SYS" },
    { name := "TLBI"
      bits := "1101010100|0|01|op1:3|1000|CRm:4|op2:3|Rt:5"
      arch := "ARMv8"
      assembly := "TLBI <tlbi_op>\x7b, <Xt>\x7d"
      code := "AArch64.SysInstr(1, op1, 8, CRm, op2, t);"
      aliasOf := "SYS" },
    { name := "SYS"
      bits := "1101010100|0|01|op1:3|CRn:4|CRm:4|op2:3|Rt:5"
      arch := "ARMv8"
      assembly := "SYS #<op1>, <Cn>, <Cm>, #<op2>\x7b, <Xt>\x7d"
      code := "AArch64.SysInstr(1, op1, CRn, CRm, op2, t);"
      aliasOf := "" },
    { name := "SYSL"
      bits := "1101010100|1|01|op1:3|CRn:4|CRm:4|op2:3|Rt:5"
      arch := "ARMv8"
      assembly := "SYSL <Xt>, #<op1>, <Cn>, <Cm>, #<op2>"
      code := "X[t] = AArch64.SysInstrWithResult(1, op1, CRn, CRm, op2);"
      aliasOf := "" } ]

/-- The templates of the table. -/
def table : List Template :=
  match Batch.compile descriptions with
  | .ok instructions => instructions.map Template.ofInstruction
  | .error _ => []

/-- A registry that holds the table alone. -/
def registry : Registry :=
  Registry.empty.register table

end Arm64
end InstructionTable
