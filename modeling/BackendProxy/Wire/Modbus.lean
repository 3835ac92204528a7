import BackendProxy.Lib.Peek
import BackendProxy.Wire.Message

namespace BackendProxy.Wire

open Lib

/-! Reading holding registers over Modbus TCP: the request and the parser of its response. -/

/-- A word in network order. -/
def be16 (x : UInt16) : List UInt8 :=
  [UInt8.ofNat (x.toNat / 256), UInt8.ofNat (x.toNat % 256)]

def be16At (m : Mem) (off : Nat) : UInt16 :=
  UInt16.ofNat (256 * (m off).toNat + (m (off + 1)).toNat)

/-- The low byte of an `int`. -/
def lowByte (n : Int) : UInt8 := UInt8.ofNat (n % 256).toNat

/-- MBAP header, function code, start address and register count. -/
def modbusTcpBuildReadHoldingRegistersMsg (startAddr regNum : Int) : List UInt8 :=
  [0x00, 0x01, 0x00, 0x00, 0x00, 0x06, 0x01] ++ [0x03] ++
    [lowByte (startAddr / 256), lowByte startAddr] ++ [lowByte (regNum / 256), lowByte regNum]

/-- The loop, with `n` registers to go and the next one at `off`. -/
def parseRegisters : Nat → Nat → Peek UInt8 (List UInt16)
  | 0, _ => pure []
  | n + 1, off => do
    let hi ← Peek.cell off
    let lo ← Peek.cell (off + 1)
    let regs ← parseRegisters n (off + 2)
    pure (((hi.toUInt16 <<< 8) ||| lo.toUInt16) :: regs)

/-- The registers stored in `out_regs`, as many as the return value says; `none` is -1. -/
def modbusTcpParseRegistersFromResponse (rspLen : Int) : Peek UInt8 (Option (List UInt16)) :=
  if rspLen < 9 then pure none
  else do
    let functionCode ← Peek.cell 7
    if functionCode ≠ 0x03 then pure none
    else do
      let dataBytes ← Peek.cell 8
      let regs ← parseRegisters (dataBytes.toNat / 2) 9
      pure (some regs)

/-- A response to the end of the registers it counts. -/
def CompleteResponse (rsp : Mem) (rspLen : Int) : Prop :=
  9 ≤ rspLen ∧ rsp 7 = 0x03 ∧ 2 ∣ (rsp 8).toNat ∧ 9 + (rsp 8).toNat ≤ rspLen

instance (rsp : Mem) (rspLen : Int) : Decidable (CompleteResponse rsp rspLen) :=
  inferInstanceAs (Decidable (_ ∧ _))

/-- The registers of a response. -/
def registersOf (rsp : Mem) : List UInt16 :=
  (List.range ((rsp 8).toNat / 2)).map fun i => be16At rsp (9 + 2 * i)

/-- The registers of a complete response are returned, any other response is refused, and no byte
behind the response is read. -/
structure ResponseParsed (rsp : Mem) (rspLen : Int) : Prop where
  inside : (modbusTcpParseRegistersFromResponse rspLen).Below rsp rspLen.toNat
  complete : CompleteResponse rsp rspLen →
    (modbusTcpParseRegistersFromResponse rspLen).value rsp = some (registersOf rsp)
  refused : ¬ CompleteResponse rsp rspLen →
    (modbusTcpParseRegistersFromResponse rspLen).value rsp = none

/-- A response the length and the function code of which pass is complete. -/
def CountCovered (rsp : Mem) (rspLen : Int) : Prop :=
  9 ≤ rspLen → rsp 7 = 0x03 → 2 ∣ (rsp 8).toNat ∧ 9 + (rsp 8).toNat ≤ rspLen

/-- The response of a device to a request, with the values of the registers asked for. -/
def readHoldingRegistersRsp (request : List UInt8) (values : List UInt16) : List UInt8 :=
  request.take 4 ++ be16 (UInt16.ofNat (3 + 2 * values.length)) ++ (request.drop 6).take 2 ++
    [UInt8.ofNat (2 * values.length)] ++ values.flatMap be16

/-! Words in network order. -/

/-- Shifting and masking two bytes together. -/
theorem be16_shift_or (hi lo : UInt8) :
    (hi.toUInt16 <<< 8) ||| lo.toUInt16 = UInt16.ofNat (256 * hi.toNat + lo.toNat) := by
  have hhi := UInt8.toNat_lt hi
  have hlo := UInt8.toNat_lt lo
  have h8 : UInt16.toNat 8 % 16 = 8 := rfl
  have hsum : 256 * hi.toNat + lo.toNat < 2 ^ 16 := by omega
  rw [← UInt16.toNat_inj]
  simp only [UInt16.toNat_or, UInt16.toNat_shiftLeft, UInt8.toNat_toUInt16, UInt16.toNat_ofNat',
    h8, Nat.mod_eq_of_lt hsum]
  rw [Nat.shiftLeft_eq, Nat.mod_eq_of_lt (by omega), ← Nat.shiftLeft_eq,
    ← Nat.shiftLeft_add_eq_or_of_lt hlo, Nat.shiftLeft_eq]
  omega

theorem be16At_behind (m : Mem) (pre rest : List UInt8) (x : UInt16) :
    be16At (store m 0 (pre ++ (be16 x ++ rest))) pre.length = x := by
  have hx := UInt16.toNat_lt x
  have hhi : store m 0 (pre ++ (be16 x ++ rest)) pre.length = UInt8.ofNat (x.toNat / 256) :=
    store_behind m pre _ 0 rfl
  have hlo : store m 0 (pre ++ (be16 x ++ rest)) (pre.length + 1) =
      UInt8.ofNat (x.toNat % 256) := store_behind m pre _ 1 rfl
  rw [← UInt16.toNat_inj]
  simp only [be16At, hhi, hlo, UInt8.toNat_ofNat', UInt16.toNat_ofNat']
  omega

/-! The loop. -/

theorem parseRegisters_value (rsp : Mem) (n off : Nat) :
    (parseRegisters n off).value rsp =
      (List.range n).map fun i => be16At rsp (off + 2 * i) := by
  induction n generalizing off with
  | zero => rfl
  | succ n ih =>
    rw [List.range_succ_eq_map, List.map_cons, List.map_map]
    simp only [parseRegisters, Peek.value_bind, Peek.value_cell, Peek.value_pure, ih,
      be16_shift_or]
    refine congrArg (_ :: ·) (List.map_congr_left fun i _ => ?_)
    have hoff : off + 2 + 2 * i = off + 2 * (i + 1) := by omega
    simp only [Function.comp_apply, hoff]

theorem parseRegisters_below (rsp : Mem) (n off k : Nat) :
    (parseRegisters n off).Below rsp k ↔ n = 0 ∨ off + 2 * n ≤ k := by
  induction n generalizing off with
  | zero => simp [parseRegisters]
  | succ n ih =>
    simp only [parseRegisters, Peek.below_bind, Peek.below_cell, Peek.below_pure, ih, and_true]
    omega

/-- The values that were written are read back. -/
theorem parseRegisters_store (m : Mem) (pre : List UInt8) (values : List UInt16) :
    (parseRegisters values.length pre.length).value (store m 0 (pre ++ values.flatMap be16)) =
      values := by
  induction values generalizing pre with
  | nil => rfl
  | cons x values ih =>
    have hlen : pre.length + 2 = (pre ++ be16 x).length := by simp [be16]
    have hrest := ih (pre ++ be16 x)
    rw [List.append_assoc, ← hlen, ← List.flatMap_cons] at hrest
    have hhead : be16At (store m 0 (pre ++ (x :: values).flatMap be16)) pre.length = x := by
      rw [List.flatMap_cons]
      exact be16At_behind m pre _ x
    simp only [List.length_cons, parseRegisters, Peek.value_bind, Peek.value_cell,
      Peek.value_pure, hrest, be16_shift_or]
    exact congrArg (· :: values) hhead

/-! The parser. -/

section Parser

variable {rsp : Mem} {rspLen : Int}

/-- What it returns once length and function code pass: the byte count alone decides. -/
theorem parse_counted (hlen : 9 ≤ rspLen) (hcode : rsp 7 = 0x03) :
    (modbusTcpParseRegistersFromResponse rspLen).value rsp = some (registersOf rsp) := by
  simp only [modbusTcpParseRegistersFromResponse, Int.not_lt.mpr hlen, if_false, Peek.value_bind,
    Peek.value_cell, hcode, ne_eq, not_true_eq_false, Peek.value_pure, parseRegisters_value]
  rfl

theorem parse_refused (h : rspLen < 9 ∨ rsp 7 ≠ 0x03) :
    (modbusTcpParseRegistersFromResponse rspLen).value rsp = none := by
  by_cases hlen : rspLen < 9
  · simp [modbusTcpParseRegistersFromResponse, hlen]
  · have hcode := h.resolve_left hlen
    simp [modbusTcpParseRegistersFromResponse, hlen, hcode]

theorem parse_below :
    (modbusTcpParseRegistersFromResponse rspLen).Below rsp rspLen.toNat ↔
      (9 ≤ rspLen → rsp 7 = 0x03 →
        (rsp 8).toNat / 2 = 0 ∨ 9 + 2 * ((rsp 8).toNat / 2) ≤ rspLen) := by
  by_cases hlen : rspLen < 9
  · simp only [modbusTcpParseRegistersFromResponse, hlen, if_true, Peek.below_pure, true_iff]
    omega
  · by_cases hcode : rsp 7 = 0x03
    · simp only [modbusTcpParseRegistersFromResponse, hlen, if_false, Peek.below_bind,
        Peek.below_cell, Peek.value_cell, hcode, ne_eq, not_true_eq_false, parseRegisters_below,
        Peek.below_pure, and_true, forall_const]
      omega
    · simp only [modbusTcpParseRegistersFromResponse, hlen, if_false, Peek.below_bind,
        Peek.below_cell, Peek.value_cell, hcode, ne_eq, not_false_eq_true, if_true,
        Peek.below_pure, and_true, false_implies, implies_true, iff_true]
      omega

theorem responseParsed_iff : ResponseParsed rsp rspLen ↔ CountCovered rsp rspLen := by
  constructor
  · intro h hlen hcode
    by_contra hshort
    have hnone := h.refused fun hc => hshort hc.2.2
    rw [parse_counted hlen hcode] at hnone
    cases hnone
  · intro h
    refine ⟨parse_below.mpr fun hlen hcode => ?_, fun hc => parse_counted hc.1 hc.2.1,
      fun hc => parse_refused ?_⟩
    · obtain ⟨-, hcover⟩ := h hlen hcode
      omega
    · by_contra hboth
      rw [not_or, Int.not_lt, not_not] at hboth
      exact hc ⟨hboth.1, hboth.2, h hboth.1 hboth.2⟩

end Parser

/-! The response to a request. -/

/-- The nine bytes in front of the registers. -/
def rspHeader (startAddr regNum : Int) (num : Nat) : List UInt8 :=
  (modbusTcpBuildReadHoldingRegistersMsg startAddr regNum).take 4 ++
    be16 (UInt16.ofNat (3 + 2 * num)) ++
      ((modbusTcpBuildReadHoldingRegistersMsg startAddr regNum).drop 6).take 2 ++
        [UInt8.ofNat (2 * num)]

theorem length_flatMap_be16 (values : List UInt16) :
    (values.flatMap be16).length = 2 * values.length := by
  induction values with
  | nil => rfl
  | cons x values ih =>
    rw [List.flatMap_cons, List.length_append, ih, List.length_cons]
    simp only [be16, List.length_cons, List.length_nil]
    omega

/-- A request asks for the number of registers it was built with. -/
theorem request_asks (m : Mem) (startAddr : Int) {num : Nat} (h : num ≤ 125) :
    (be16At (store m 0 (modbusTcpBuildReadHoldingRegistersMsg startAddr num)) 10).toNat = num := by
  have hhi : store m 0 (modbusTcpBuildReadHoldingRegistersMsg startAddr num) 10 =
      lowByte ((num : Int) / 256) := store_behind m _ _ 0 rfl
  have hlo : store m 0 (modbusTcpBuildReadHoldingRegistersMsg startAddr num) (10 + 1) =
      lowByte num := store_behind m _ _ 1 rfl
  simp only [be16At, hhi, hlo, lowByte, UInt8.toNat_ofNat', UInt16.toNat_ofNat']
  omega

/-- Up to 125 registers fit the byte count of a response. -/
theorem response_parsed (m : Mem) (startAddr regNum : Int) {values : List UInt16}
    (hnum : values.length ≤ 125) :
    let rsp := readHoldingRegistersRsp
      (modbusTcpBuildReadHoldingRegistersMsg startAddr regNum) values
    (modbusTcpParseRegistersFromResponse rsp.length).value (store m 0 rsp) = some values := by
  intro rsp
  have hrsp : rsp = rspHeader startAddr regNum values.length ++ values.flatMap be16 := rfl
  have hlen : rsp.length = 9 + 2 * values.length := by
    rw [hrsp, List.length_append, length_flatMap_be16]
    rfl
  have hcode : store m 0 rsp 7 = 0x03 := by
    rw [hrsp]
    rfl
  have hcount : store m 0 rsp 8 = UInt8.ofNat (2 * values.length) := by
    rw [hrsp]
    rfl
  have hhalf : (store m 0 rsp 8).toNat / 2 = values.length := by
    rw [hcount, UInt8.toNat_ofNat']
    omega
  have hregs := parseRegisters_store m (rspHeader startAddr regNum values.length) values
  rw [← hrsp, parseRegisters_value] at hregs
  rw [parse_counted (by omega) hcode, registersOf, hhalf]
  exact congrArg some hregs

/-- The parser treats a response as it should exactly if the response covers the registers it
counts; the response to a request for up to 125 registers does. -/
theorem modbusResponses_parsed_iff (rsp : Mem) (rspLen : Int) :
    (ResponseParsed rsp rspLen ↔ CountCovered rsp rspLen) ∧
      ∀ (m : Mem) (startAddr : Int) (regNum : Nat) (values : List UInt16),
        1 ≤ regNum → regNum ≤ 125 → values.length = regNum →
          let request := modbusTcpBuildReadHoldingRegistersMsg startAddr regNum
          let rsp := readHoldingRegistersRsp request values
          (be16At (store m 0 request) 10).toNat = values.length ∧
            (modbusTcpParseRegistersFromResponse rsp.length).value (store m 0 rsp) =
              some values := by
  refine ⟨responseParsed_iff, ?_⟩
  intro m startAddr regNum values _ hmax hnum
  subst hnum
  exact ⟨request_asks m startAddr hmax, response_parsed m startAddr _ hmax⟩

/-- The response of a device with two registers. -/
def twoRsp : Mem :=
  store (fun _ => 0) 0
    (readHoldingRegistersRsp (modbusTcpBuildReadHoldingRegistersMsg 7 2) [258, 65535])

theorem modbusResponses_parsed_iff_two :
    ResponseParsed twoRsp 13 ∧
      (modbusTcpParseRegistersFromResponse 13).value twoRsp = some [258, 65535] := by
  have hcovered : CountCovered twoRsp 13 := fun _ _ => by decide
  obtain ⟨hparsed, hround⟩ := modbusResponses_parsed_iff twoRsp 13
  refine ⟨hparsed.mpr hcovered, ?_⟩
  exact (hround (fun _ => 0) 7 2 [258, 65535] (by decide) (by decide) rfl).2

/-- Nine bytes that count four more. -/
def truncatedRsp : Mem := store (fun _ => 0) 0 [0, 1, 0, 0, 0, 7, 1, 3, 4]

/-- A register counted with half of its bytes. -/
def oddRsp : Mem := store (fun _ => 0) 0 [0, 1, 0, 0, 0, 4, 1, 3, 1, 0]

theorem truncated_not_refused :
    ¬ ResponseParsed truncatedRsp 9 ∧ ¬ ResponseParsed oddRsp 10 := by
  constructor
  · intro h
    have hinside := h.inside
    revert hinside
    decide
  · intro h
    have hnone := h.refused (by decide)
    revert hnone
    decide

end BackendProxy.Wire
