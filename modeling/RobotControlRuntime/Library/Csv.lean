import Mathlib.Data.List.Basic

-- Comma separated values as bytes, after RFC 4180: the grammar, and a reader that
-- goes over the text byte by byte. A record also ends with a bare LF, and every
-- byte that separates nothing is text.
namespace Csv

def isSeparator (byte : UInt8) : Bool := byte == 0x2c || byte == 0x22 || byte == 0x0a || byte == 0x0d

inductive Escaped : List UInt8 → List UInt8 → Prop where
  | nil : Escaped [] []
  | byte : byte ≠ 0x22 → Escaped text value → Escaped (byte :: text) (byte :: value)
  | quote : Escaped text value → Escaped (0x22 :: 0x22 :: text) (0x22 :: value)

inductive Field : List UInt8 → List UInt8 → Prop where
  | plain : (∀ byte ∈ value,isSeparator byte = false) → Field value value
  | quoted : Escaped text value → Field (0x22 :: (text ++ [0x22])) value

inductive Record : List UInt8 → List (List UInt8) → Prop where
  | last : Field text value → Record text [value]
  | more : Field text value → Record rest values → Record (text ++ 0x2c :: rest) (value :: values)

inductive LineEnd : List UInt8 → Prop where
  | lf : LineEnd [0x0a]
  | crlf : LineEnd [0x0d,0x0a]

-- The last record may come without its line end. Behind a line end no record is
-- begun by the end of the text.
inductive File : List UInt8 → List (List (List UInt8)) → Prop where
  | empty : File [] []
  | last : Record text fields → text ≠ [] → File text [fields]
  | more : Record text fields → LineEnd mark → File rest records → File (text ++ (mark ++ rest)) (fields :: records)

inductive Mode where
  | record | field | plain | quoted | closing | carriage
  deriving DecidableEq, Repr

-- What is read so far: the bytes of the open field, the fields of the open record
-- and the records before it.
structure Reader where
  mode : Mode
  field : List UInt8
  record : List (List UInt8)
  records : List (List (List UInt8))
  deriving DecidableEq

namespace Reader

def start : Reader := ⟨.record,[],[],[]⟩

def endField (r : Reader) : Reader := ⟨.field,[],r.record ++ [r.field],r.records⟩

def endRecord (r : Reader) : Reader := ⟨.record,[],[],r.records ++ [r.record ++ [r.field]]⟩

def separate (r : Reader) (byte : UInt8) : Option Reader :=
  if byte = 0x2c then some r.endField
  else if byte = 0x0a then some r.endRecord
  else if byte = 0x0d then some {r with mode := .carriage}
  else none

def plainByte (r : Reader) (byte : UInt8) : Option Reader :=
  if isSeparator byte then r.separate byte else some {r with mode := .plain,field := r.field ++ [byte]}

def step (r : Reader) (byte : UInt8) : Option Reader :=
  match r.mode with
  | .record | .field => if byte = 0x22 then some {r with mode := .quoted} else r.plainByte byte
  | .plain => r.plainByte byte
  | .quoted => if byte = 0x22 then some {r with mode := .closing} else some {r with field := r.field ++ [byte]}
  | .closing => if byte = 0x22 then some {r with mode := .quoted,field := r.field ++ [0x22]} else r.separate byte
  | .carriage => if byte = 0x0a then some r.endRecord else none

def run (r : Reader) (input : List UInt8) : Option Reader := input.foldlM step r

def finish (r : Reader) : Option (List (List (List UInt8))) :=
  match r.mode with
  | .record => some r.records
  | .quoted | .carriage => none
  | .field | .plain | .closing => some r.endRecord.records

end Reader

def parse (input : List UInt8) : Option (List (List (List UInt8))) := (Reader.start.run input).bind Reader.finish

namespace Reader

@[simp] theorem run_nil (r : Reader) : r.run [] = some r := rfl

theorem run_cons (r : Reader) (byte : UInt8) (rest : List UInt8) :
    r.run (byte :: rest) = (r.step byte).bind fun next => next.run rest := by
  simp only [run,List.foldlM_cons,Option.bind_eq_bind]

theorem run_append {r middle : Reader} (first : r.run text = some middle) (rest : List UInt8) :
    r.run (text ++ rest) = middle.run rest := by
  have split : r.run (text ++ rest) = (r.run text).bind fun next => next.run rest := by
    simp only [run,List.foldlM_append,Option.bind_eq_bind]
  rw [split,first,Option.bind_some]

theorem escaped_read (escaped : Escaped text value) (field : List UInt8) (record : List (List UInt8))
    (records : List (List (List UInt8))) :
    run ⟨.quoted,field,record,records⟩ text = some ⟨.quoted,field ++ value,record,records⟩ := by
  induction escaped generalizing field with
  | nil => rw [run_nil,List.append_nil]
  | byte other _ ih =>
      rw [run_cons,step]
      dsimp only
      rw [if_neg other,Option.bind_some,ih,List.append_assoc,List.singleton_append]
  | quote _ ih =>
      rw [run_cons,step]
      dsimp only
      rw [if_pos rfl,Option.bind_some,run_cons,step]
      dsimp only
      rw [if_pos rfl,Option.bind_some,ih,List.append_assoc,List.singleton_append]

theorem plain_read (plain : ∀ byte ∈ value,isSeparator byte = false) (field : List UInt8) (record : List (List UInt8))
    (records : List (List (List UInt8))) :
    run ⟨.plain,field,record,records⟩ value = some ⟨.plain,field ++ value,record,records⟩ := by
  induction value generalizing field with
  | nil => rw [run_nil,List.append_nil]
  | cons byte value ih =>
      have here := plain byte List.mem_cons_self
      have rest : ∀ byte ∈ value,isSeparator byte = false := fun byte later => plain byte (List.mem_cons_of_mem _ later)
      rw [run_cons,step]
      dsimp only
      rw [plainByte,here]
      simp only [Bool.false_eq_true,if_false,Option.bind_some]
      rw [ih rest,List.append_assoc,List.singleton_append]

end Reader

def Mode.Begins (mode : Mode) : Prop := mode = .record ∨ mode = .field

def Mode.Ends (mode : Mode) : Prop := mode ≠ .quoted ∧ mode ≠ .carriage

namespace Reader

theorem separator_read {r : Reader} (ends : r.mode.Ends) (separator : isSeparator byte = true) (bare : byte ≠ 0x22) :
    r.step byte = r.separate byte := by
  unfold step
  cases here : r.mode with
  | record | field =>
      dsimp only
      rw [if_neg bare,plainByte,if_pos separator]
  | plain =>
      dsimp only
      rw [plainByte,if_pos separator]
  | closing =>
      dsimp only
      rw [if_neg bare]
  | quoted => exact absurd here ends.1
  | carriage => exact absurd here ends.2

theorem field_read (field : Field text value) {mode : Mode} (begins : mode.Begins) (record : List (List UInt8))
    (records : List (List (List UInt8))) :
    ∃ after : Mode,run ⟨mode,[],record,records⟩ text = some ⟨after,value,record,records⟩ ∧ after.Ends ∧
      (after = .record → text = []) := by
  cases field with
  | plain bare =>
      cases text with
      | nil =>
          refine ⟨mode,rfl,?_,fun _ => rfl⟩
          rcases begins with rfl | rfl <;> exact ⟨by decide,by decide⟩
      | cons byte text =>
          have here := bare byte List.mem_cons_self
          have other : byte ≠ 0x22 := by
            rintro rfl
            cases here
          have rest : ∀ byte ∈ text,isSeparator byte = false := fun byte later => bare byte (List.mem_cons_of_mem _ later)
          have first : step ⟨mode,[],record,records⟩ byte = some ⟨.plain,[byte],record,records⟩ := by
            rcases begins with rfl | rfl <;> simp [step,other,plainByte,here]
          refine ⟨.plain,?_,⟨by decide,by decide⟩,nofun⟩
          rw [run_cons,first,Option.bind_some,plain_read rest,List.singleton_append]
  | quoted escaped =>
      rename_i text
      have first : step ⟨mode,[],record,records⟩ 0x22 = some ⟨.quoted,[],record,records⟩ := by
        rcases begins with rfl | rfl <;> rfl
      refine ⟨.closing,?_,⟨by decide,by decide⟩,nofun⟩
      rw [run_cons,first,Option.bind_some,run_append (escaped_read escaped [] record records),List.nil_append]
      rfl

theorem record_read (recorded : Record text fields) {mode : Mode} (begins : mode.Begins) (record : List (List UInt8))
    (records : List (List (List UInt8))) :
    ∃ r : Reader,run ⟨mode,[],record,records⟩ text = some r ∧ r.record ++ [r.field] = record ++ fields ∧
      r.records = records ∧ r.mode.Ends ∧ (r.mode = .record → text = []) := by
  induction recorded generalizing mode record with
  | last field =>
      obtain ⟨after,ran,ends,empty⟩ := field_read field begins record records
      exact ⟨_,ran,rfl,rfl,ends,empty⟩
  | @more text value rest values field _ ih =>
      obtain ⟨after,ran,ends,_⟩ := field_read field begins record records
      have comma : step ⟨after,value,record,records⟩ 0x2c = some ⟨.field,[],record ++ [value],records⟩ :=
        separator_read ends rfl (by decide)
      obtain ⟨r,later,fields,kept,ended,empty⟩ := ih (Or.inr rfl) (record ++ [value])
      refine ⟨r,?_,?_,kept,ended,?_⟩
      · rw [run_append ran,run_cons,comma,Option.bind_some,later]
      · rw [fields,List.append_assoc,List.singleton_append]
      · intro here
        rw [empty here] at later
        cases later
        cases here

theorem line_read (line : LineEnd mark) {r : Reader} (ends : r.mode.Ends) : r.run mark = some r.endRecord := by
  cases line with
  | lf =>
      rw [run_cons,separator_read ends rfl (by decide)]
      rfl
  | crlf =>
      rw [run_cons,separator_read ends rfl (by decide)]
      rfl

theorem file_read (file : File text found) (records : List (List (List UInt8))) :
    (run ⟨.record,[],[],records⟩ text).bind finish = some (records ++ found) := by
  induction file generalizing records with
  | empty => rw [run_nil,Option.bind_some,finish,List.append_nil]
  | last recorded filled =>
      obtain ⟨r,ran,fields,kept,ends,empty⟩ := record_read recorded (Or.inl rfl) [] records
      rw [ran,Option.bind_some,finish]
      cases here : r.mode with
      | record => exact absurd (empty here) filled
      | quoted => exact absurd here ends.1
      | carriage => exact absurd here ends.2
      | field | plain | closing =>
          dsimp only [endRecord]
          rw [fields,kept,List.nil_append]
  | more recorded line _ ih =>
      obtain ⟨r,ran,fields,kept,ends,_⟩ := record_read recorded (Or.inl rfl) [] records
      rw [run_append ran,run_append (line_read line ends),endRecord,fields,kept,List.nil_append,ih,List.append_assoc,
        List.singleton_append]

end Reader

theorem parse_file (file : File text records) : parse text = some records := Reader.file_read file []

end Csv
