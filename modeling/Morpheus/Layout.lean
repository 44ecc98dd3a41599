import Mathlib.Tactic.Common

/-!
# The shared control block layout

`_morpheus_shared.py` mirrors the kernel's shared structures as ctypes structures:
`MorpheusScb` and `MorpheusHint` with `_pack_ = 8`, and `GlobalPressure`. Its
`verify_offsets` checks the `MorpheusScb` mirror against the offsets of the C definition
and a size of 128 bytes.

`CStruct.layout` places fields as ctypes does on a 64-bit target: each at the running
offset rounded up to its alignment, capped by `_pack_`, and the size rounded up to the
largest of those alignments. `verifyOffsetsOf_eq_ok_iff` : the check passes exactly when
every expected offset is the actual one and the size is 128, and
`verifyOffsetsOf_eq_error` : a failed check names the field whose offset differs, with
both offsets, or the size it found. On the mirrors themselves the placement gives the
tables of §3.1 and §3.2 (`morpheusScb_layout`, `morpheusHint_layout`), and the control
block passes its own check (`verifyOffsets_eq_ok`, T1, T2).
-/

namespace Morpheus

/-! ## ctypes placement -/

/-- The ctypes field types of the mirrors. -/
inductive CType where
  /-- `c_uint32`. -/
  | uint32
  /-- `c_uint64`. -/
  | uint64
  /-- `t * n`. -/
  | array (t : CType) (n : Nat)
  deriving Repr, DecidableEq

namespace CType

/-- `sizeof(t)`. -/
def size : CType → Nat
  | .uint32 => 4
  | .uint64 => 8
  | .array t n => t.size * n

/-- `alignment(t)`: an array aligns as its element. -/
def align : CType → Nat
  | .uint32 => 4
  | .uint64 => 8
  | .array t _ => t.align

end CType

/-- A `ctypes.Structure` subclass: its `_fields_`, and its `_pack_` (`0` when unset). -/
structure CStruct where
  fields : List (String × CType)
  pack : Nat
  deriving Repr, DecidableEq

/-- A placed field: its name, type and offset. -/
structure Field where
  name : String
  type : CType
  offset : Nat
  deriving Repr, DecidableEq

/-- The first byte past the field. -/
def Field.stop (f : Field) : Nat := f.offset + f.type.size

/-- The alignment ctypes gives a field of type `t` under `_pack_ = pack`. -/
def fieldAlign (pack : Nat) (t : CType) : Nat :=
  if pack = 0 then t.align else Nat.min pack t.align

/-- `off` rounded up to a multiple of `a`, as ctypes pads before a field. -/
def alignUp (off a : Nat) : Nat :=
  if off % a = 0 then off else off + (a - off % a)

/-- The fields from offset `off` on, each placed after the previous one, and the offset
past the last. -/
def place (pack : Nat) : List (String × CType) → Nat → List Field × Nat
  | [], off => ([], off)
  | (name, t) :: fs, off =>
    let f : Field := ⟨name, t, alignUp off (fieldAlign pack t)⟩
    let r := place pack fs f.stop
    (f :: r.1, r.2)

/-- The structure's alignment: the largest alignment of its fields. -/
def CStruct.align (s : CStruct) : Nat :=
  s.fields.foldr (fun f a => Nat.max (fieldAlign s.pack f.2) a) 1

/-- The placed fields of the structure. -/
def CStruct.layout (s : CStruct) : List Field := (place s.pack s.fields 0).1

/-- `sizeof(s)`: the end of the last field rounded up to the structure's alignment. -/
def CStruct.sizeof (s : CStruct) : Nat := alignUp (place s.pack s.fields 0).2 s.align

/-- `getattr(s, name).offset`; ctypes sets one class attribute per field in order, so a
repeated name reads the last. -/
def CStruct.offsetOf (s : CStruct) (name : String) : Option Nat :=
  s.layout.foldl (fun acc f => if f.name = name then some f.offset else acc) none

/-! ## The mirrors -/

/-- `MorpheusScb`, the shared control block. -/
def morpheusScb : CStruct where
  fields :=
    [("preempt_seq", .uint64), ("budget_remaining_ns", .uint64),
      ("kernel_pressure_level", .uint32), ("worker_state", .uint32),
      ("_reserved0", .array .uint64 5),
      ("is_in_critical_section", .uint32), ("escapable", .uint32),
      ("last_ack_seq", .uint64), ("runtime_priority", .uint32),
      ("last_yield_reason", .uint32), ("_reserved1", .array .uint64 1),
      ("escalation_policy", .uint32), ("_pad", .uint32),
      ("_reserved2", .array .uint64 3)]
  pack := 8

/-- `MorpheusHint`, a hint record of the ring buffer. -/
def morpheusHint : CStruct where
  fields :=
    [("seq", .uint64), ("reason", .uint32), ("target_tid", .uint32),
      ("deadline_ns", .uint64)]
  pack := 8

/-- `GlobalPressure`, with no `_pack_`. -/
def globalPressure : CStruct where
  fields :=
    [("cpu_pressure_pct", .uint32), ("io_pressure_pct", .uint32),
      ("memory_pressure_pct", .uint32), ("runqueue_depth", .uint32)]
  pack := 0

/-! ## `verify_offsets` -/

/-- What `verify_offsets` raises. -/
inductive VerifyError where
  /-- `AssertionError` with its message. -/
  | assertion (msg : String)
  /-- `AttributeError` from `getattr`: the structure has no such field. -/
  | attribute (name : String)
  deriving Repr, DecidableEq

/-- The loop of `verify_offsets` over the expected offsets, in their order. -/
def checkOffsets (scb : CStruct) : List (String × Nat) → Except VerifyError Unit
  | [] => .ok ()
  | (fieldName, expectedOffset) :: rest =>
    match scb.offsetOf fieldName with
    | none => .error (.attribute fieldName)
    | some actualOffset =>
      if actualOffset ≠ expectedOffset then
        .error (.assertion
          s!"Offset mismatch for {fieldName}: expected {expectedOffset}, got {actualOffset}")
      else checkOffsets scb rest

/-- `verify_offsets` for structure `scb` and the table `expected`. -/
def verifyOffsetsOf (scb : CStruct) (expected : List (String × Nat)) :
    Except VerifyError Bool := do
  checkOffsets scb expected
  let size := scb.sizeof
  if size ≠ 128 then
    throw (.assertion s!"SCB size mismatch: expected 128, got {size}")
  return true

/-- The offsets `verify_offsets` expects, from the C definition. -/
def scbExpectedOffsets : List (String × Nat) :=
  [("preempt_seq", 0), ("budget_remaining_ns", 8), ("kernel_pressure_level", 16),
    ("worker_state", 20), ("is_in_critical_section", 64), ("escapable", 68),
    ("last_ack_seq", 72), ("runtime_priority", 80), ("last_yield_reason", 84),
    ("escalation_policy", 96)]

/-- `verify_offsets()`. -/
def verifyOffsets : Except VerifyError Bool := verifyOffsetsOf morpheusScb scbExpectedOffsets

theorem checkOffsets_eq_ok_iff (scb : CStruct) (expected : List (String × Nat)) :
    checkOffsets scb expected = .ok () ↔ ∀ p ∈ expected, scb.offsetOf p.1 = some p.2 := by
  induction expected with
  | nil => simp [checkOffsets]
  | cons p rest ih =>
    obtain ⟨name, e⟩ := p
    simp only [checkOffsets, List.mem_cons, forall_eq_or_imp]
    cases scb.offsetOf name with
    | none => simp
    | some a => by_cases h : a = e <;> simp [h, ih]

/-- A failed offset check names a field of the table whose offset differs, with both
offsets, or one the structure lacks. -/
theorem checkOffsets_eq_error (scb : CStruct) (expected : List (String × Nat))
    (err : VerifyError) (h : checkOffsets scb expected = .error err) :
    ∃ p ∈ expected,
      (∃ a, scb.offsetOf p.1 = some a ∧ a ≠ p.2 ∧
        err = .assertion s!"Offset mismatch for {p.1}: expected {p.2}, got {a}") ∨
      (scb.offsetOf p.1 = none ∧ err = .attribute p.1) := by
  induction expected with
  | nil => simp [checkOffsets] at h
  | cons p rest ih =>
    obtain ⟨name, e⟩ := p
    simp only [checkOffsets] at h
    cases ho : scb.offsetOf name with
    | none =>
      simp only [ho, Except.error.injEq] at h
      exact ⟨_, List.mem_cons_self _ _, .inr ⟨ho, h.symm⟩⟩
    | some a =>
      simp only [ho] at h
      split_ifs at h with hne
      · exact ⟨_, List.mem_cons_self _ _, .inl ⟨a, ho, hne, (Except.error.inj h).symm⟩⟩
      · obtain ⟨q, hq, hq'⟩ := ih h
        exact ⟨q, List.mem_cons_of_mem _ hq, hq'⟩

/-- `verify_offsets` runs the offset checks, then the size check. -/
theorem verifyOffsetsOf_eq (scb : CStruct) (expected : List (String × Nat)) :
    verifyOffsetsOf scb expected =
      match checkOffsets scb expected with
      | .error e => .error e
      | .ok () =>
        if scb.sizeof ≠ 128 then
          .error (.assertion s!"SCB size mismatch: expected 128, got {scb.sizeof}")
        else .ok true := by
  unfold verifyOffsetsOf
  cases checkOffsets scb expected with
  | error e => rfl
  | ok u => by_cases hs : scb.sizeof ≠ 128 <;> simp only [hs, if_true, if_false] <;> rfl

/-- `verify_offsets` returns `True` exactly when every expected offset is the actual one
and the structure is 128 bytes; it never returns `False`. -/
theorem verifyOffsetsOf_eq_ok_iff (scb : CStruct) (expected : List (String × Nat))
    (b : Bool) :
    verifyOffsetsOf scb expected = .ok b ↔
      b = true ∧ (∀ p ∈ expected, scb.offsetOf p.1 = some p.2) ∧ scb.sizeof = 128 := by
  rw [verifyOffsetsOf_eq, ← checkOffsets_eq_ok_iff]
  cases checkOffsets scb expected with
  | error e => simp
  | ok u => by_cases hs : scb.sizeof = 128 <;> simp [hs, eq_comm]

/-- A failed `verify_offsets` names a field of the table whose offset differs, with both
offsets, or one the structure lacks; or every offset matched and it gives the size. -/
theorem verifyOffsetsOf_eq_error (scb : CStruct) (expected : List (String × Nat))
    (err : VerifyError) (h : verifyOffsetsOf scb expected = .error err) :
    (∃ p ∈ expected,
      (∃ a, scb.offsetOf p.1 = some a ∧ a ≠ p.2 ∧
        err = .assertion s!"Offset mismatch for {p.1}: expected {p.2}, got {a}") ∨
      (scb.offsetOf p.1 = none ∧ err = .attribute p.1)) ∨
    ((∀ p ∈ expected, scb.offsetOf p.1 = some p.2) ∧ scb.sizeof ≠ 128 ∧
      err = .assertion s!"SCB size mismatch: expected 128, got {scb.sizeof}") := by
  rw [verifyOffsetsOf_eq] at h
  cases hc : checkOffsets scb expected with
  | error e =>
    rw [hc, Except.error.injEq] at h
    exact .inl (h ▸ checkOffsets_eq_error scb expected e hc)
  | ok u =>
    rw [hc] at h
    split_ifs at h with hs
    exact .inr ⟨(checkOffsets_eq_ok_iff scb expected).1 hc, hs, (Except.error.inj h).symm⟩

/-- Dropping `_reserved0` from the mirror moves the second cache line down to byte 24, and
the check names the first field it moved. -/
example : verifyOffsetsOf ⟨morpheusScb.fields.erase ("_reserved0", .array .uint64 5), 8⟩
    scbExpectedOffsets = .error (.assertion
      "Offset mismatch for is_in_critical_section: expected 64, got 24") := rfl

/-! ## The mirrors' layouts -/

/-- The mirror is the table of §3.1, reserved ranges and padding included, in 128 bytes
aligned to 8 (T1, T2). -/
theorem morpheusScb_layout :
    morpheusScb.layout.map (fun f => (f.offset, f.type.size, f.name)) =
      [(0, 8, "preempt_seq"), (8, 8, "budget_remaining_ns"), (16, 4, "kernel_pressure_level"),
        (20, 4, "worker_state"), (24, 40, "_reserved0"), (64, 4, "is_in_critical_section"),
        (68, 4, "escapable"), (72, 8, "last_ack_seq"), (80, 4, "runtime_priority"),
        (84, 4, "last_yield_reason"), (88, 8, "_reserved1"), (96, 4, "escalation_policy"),
        (100, 4, "_pad"), (104, 24, "_reserved2")] ∧
      morpheusScb.sizeof = 128 ∧ morpheusScb.align = 8 :=
  ⟨rfl, rfl, rfl⟩

/-- The mirror passes its own check: every offset `verify_offsets()` expects is the one
ctypes gives, and the size is 128, so it returns `True`. -/
theorem verifyOffsets_eq_ok : verifyOffsets = .ok true :=
  (verifyOffsetsOf_eq_ok_iff _ _ _).2 ⟨rfl, by decide, morpheusScb_layout.2.1⟩

/-- The hint record is the table of §3.2 in 24 bytes, aligned to 8. -/
theorem morpheusHint_layout :
    morpheusHint.layout.map (fun f => (f.offset, f.type.size, f.name)) =
      [(0, 8, "seq"), (8, 4, "reason"), (12, 4, "target_tid"), (16, 8, "deadline_ns")] ∧
      morpheusHint.sizeof = 24 ∧ morpheusHint.align = 8 :=
  ⟨rfl, rfl, rfl⟩

/-- `GlobalPressure`, with no `_pack_`, is four packed 32-bit fields in 16 bytes. -/
theorem globalPressure_layout :
    globalPressure.layout.map (fun f => (f.offset, f.type.size, f.name)) =
      [(0, 4, "cpu_pressure_pct"), (4, 4, "io_pressure_pct"), (8, 4, "memory_pressure_pct"),
        (12, 4, "runqueue_depth")] ∧
      globalPressure.sizeof = 16 ∧ globalPressure.align = 4 :=
  ⟨rfl, rfl, rfl⟩

end Morpheus
