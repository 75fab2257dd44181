import Mathlib.Logic.Basic

namespace FrameStream

-- A decoder looks at the front of a byte sequence. It returns a frame and its
-- length, or an error; some errors only say that the frame is not complete yet.
-- Everything else it says stays true when more bytes arrive.
structure Decoder (β φ ε : Type) where
  decode : List β → Except ε (φ × Nat)
  waits : ε → Bool
  empty : ∃ reason, decode [] = .error reason ∧ waits reason = true
  consumed : ∀ bytes value n, decode bytes = .ok (value,n) → 0 < n ∧ n ≤ bytes.length
  framed : ∀ bytes rest value n, decode bytes = .ok (value,n) → decode (bytes ++ rest) = .ok (value,n)
  refused : ∀ bytes rest reason, decode bytes = .error reason → waits reason = false →
    decode (bytes ++ rest) = .error reason

structure Codec (β φ ε : Type) extends Decoder β φ ε where
  encode : φ → Option (List β)
  decodes : ∀ value wire, encode value = some wire → decode wire = .ok (value,wire.length)

namespace Decoder
variable {β φ ε : Type} (d : Decoder β φ ε)

def Waits (bytes : List β) : Prop := ∃ reason, d.decode bytes = .error reason ∧ d.waits reason = true

inductive Drains : List β → List φ → List β → Prop where
  | rest : d.Waits bytes → Drains bytes [] bytes
  | frame : d.decode bytes = .ok (value,n) → Drains (bytes.drop n) values rest → Drains bytes (value :: values) rest

variable {d}

theorem drains_waits (drains : d.Drains bytes values rest) : d.Waits rest := by
  induction drains with
  | rest waits => exact waits
  | frame _ _ ih => exact ih

theorem drains_split (drains : d.Drains bytes values middle) (whole : d.Drains (bytes ++ more) all rest) :
    ∃ others, all = values ++ others ∧ d.Drains (middle ++ more) others rest := by
  induction drains generalizing all with
  | rest _ => exact ⟨all,rfl,whole⟩
  | @frame bytes value n values middle decoded _ ih =>
      have again := d.framed bytes more value n decoded
      cases whole with
      | rest waits =>
          obtain ⟨reason,waiting,_⟩ := waits
          cases waiting.symm.trans again
      | frame found onward =>
          cases found.symm.trans again
          rw [List.drop_append_of_le_length (d.consumed bytes value n decoded).2] at onward
          obtain ⟨others,rfl,tail⟩ := ih onward
          exact ⟨others,rfl,tail⟩

theorem drains_append (drains : d.Drains bytes values middle) (later : d.Drains (middle ++ more) others rest) :
    d.Drains (bytes ++ more) (values ++ others) rest := by
  induction drains with
  | rest _ => exact later
  | @frame bytes value n values middle decoded _ ih =>
      refine .frame (d.framed bytes more value n decoded) ?_
      rw [List.drop_append_of_le_length (d.consumed bytes value n decoded).2]
      exact ih later

theorem drains_total (patient : ∀ bytes reason, d.decode bytes = .error reason → d.waits reason = true) (bytes : List β) :
    ∃ values rest, d.Drains bytes values rest := by
  induction size : bytes.length using Nat.strongRecOn generalizing bytes with
  | ind size ih =>
      cases judged : d.decode bytes with
      | error reason => exact ⟨[],bytes,.rest ⟨reason,judged,patient bytes reason judged⟩⟩
      | ok found =>
          obtain ⟨value,n⟩ := found
          have taken := d.consumed bytes value n judged
          obtain ⟨values,rest,onward⟩ := ih (bytes.drop n).length (by rw [List.length_drop]; omega) (bytes.drop n) rfl
          exact ⟨value :: values,rest,.frame judged onward⟩

theorem drains_unique (one : d.Drains bytes values rest) (two : d.Drains bytes values' rest') :
    values' = values ∧ rest' = rest := by
  rw [← List.append_nil bytes] at two
  obtain ⟨others,rfl,tail⟩ := drains_split one two
  rw [List.append_nil] at tail
  obtain ⟨reason,waiting,_⟩ := drains_waits one
  cases tail with
  | rest _ => exact ⟨List.append_nil _,rfl⟩
  | frame decoded _ => cases waiting.symm.trans decoded

theorem prefix_waits (decoded : d.decode (bytes ++ more) = .ok (value,(bytes ++ more).length)) (missing : more ≠ []) :
    d.Waits bytes := by
  cases judged : d.decode bytes with
  | ok found =>
      obtain ⟨other,n⟩ := found
      have again := d.framed bytes more other n judged
      cases again.symm.trans decoded
      have short := (d.consumed bytes _ _ judged).2
      rw [List.length_append] at short
      exact absurd (List.length_eq_zero_iff.mp (by omega)) missing
  | error reason =>
      cases waiting : d.waits reason with
      | true => exact ⟨reason,judged,waiting⟩
      | false =>
          have again := d.refused bytes more reason judged waiting
          cases again.symm.trans decoded

inductive Fed (d : Decoder β φ ε) : List β → List (List β) → List φ → List β → Prop where
  | nil : Fed d held [] [] held
  | cons : d.Drains (held ++ chunk) values middle → Fed d middle chunks more rest →
      Fed d held (chunk :: chunks) (values ++ more) rest

theorem fed_waits (waits : d.Waits held) (fed : d.Fed held chunks values rest) : d.Waits rest := by
  induction fed with
  | nil => exact waits
  | cons drains _ ih => exact ih (drains_waits drains)

theorem fed_front (fed : d.Fed held (front ++ back) values rest) : ∃ first middle, d.Fed held front first middle := by
  induction front generalizing held values with
  | nil => exact ⟨[],held,.nil⟩
  | cons chunk front ih =>
      cases fed with
      | cons drains onward =>
          obtain ⟨first,middle,fed⟩ := ih onward
          exact ⟨_,middle,.cons drains fed⟩

theorem fed_drains (drains : d.Drains bytes done held) (fed : d.Fed held chunks values rest) :
    d.Drains (bytes ++ chunks.flatten) (done ++ values) rest := by
  induction fed generalizing bytes done with
  | nil => simpa using drains
  | @cons held chunk values middle chunks more rest arrived _ ih =>
      have onward := ih (drains_append drains arrived)
      simpa only [List.flatten_cons,List.append_assoc] using onward

theorem fed_total (patient : ∀ bytes reason, d.decode bytes = .error reason → d.waits reason = true) (held : List β)
    (chunks : List (List β)) : ∃ values rest, d.Fed held chunks values rest := by
  induction chunks generalizing held with
  | nil => exact ⟨[],held,.nil⟩
  | cons chunk chunks ih =>
      obtain ⟨values,middle,drains⟩ := drains_total patient (held ++ chunk)
      obtain ⟨more,rest,fed⟩ := ih middle
      exact ⟨values ++ more,rest,.cons drains fed⟩

end Decoder

namespace Codec
variable {β φ ε : Type} {c : Codec β φ ε}
open Decoder

inductive Encodes (c : Codec β φ ε) : List φ → List β → Prop where
  | nil : Encodes c [] []
  | cons : c.encode value = some wire → Encodes c values bytes → Encodes c (value :: values) (wire ++ bytes)

theorem encodes_drains (encodes : c.Encodes values bytes) : c.Drains bytes values [] := by
  induction encodes with
  | nil => exact .rest c.empty
  | @cons value wire values bytes encoded _ ih =>
      refine .frame (c.framed wire bytes value wire.length (c.decodes value wire encoded)) ?_
      rw [List.drop_left]
      exact ih

theorem prefix_drains (encodes : c.Encodes values whole) (cut : bytes ++ more = whole) :
    ∃ done rest, c.Drains bytes done rest := by
  induction encodes generalizing bytes with
  | nil =>
      obtain ⟨rfl,_⟩ := List.append_eq_nil_iff.mp cut
      exact ⟨[],[],.rest c.empty⟩
  | @cons value wire values tail encoded _ ih =>
      have decoded := c.decodes value wire encoded
      rcases List.append_eq_append_iff.mp cut with ⟨missing,rfl,_⟩ | ⟨extra,rfl,onward⟩
      · by_cases complete : missing = []
        · subst complete
          rw [List.append_nil] at decoded
          refine ⟨[value],[],.frame decoded ?_⟩
          rw [List.drop_length]
          exact .rest c.empty
        · exact ⟨[],bytes,.rest (prefix_waits decoded complete)⟩
      · obtain ⟨done,rest,drains⟩ := ih onward.symm
        refine ⟨value :: done,rest,.frame (c.framed wire extra value wire.length decoded) ?_⟩
        rw [List.drop_left]
        exact drains

theorem prefix_fed (encodes : c.Encodes values whole) (cut : bytes ++ chunks.flatten = whole)
    (drains : c.Drains bytes done held) : ∃ others, values = done ++ others ∧ c.Fed held chunks others [] := by
  induction chunks generalizing bytes done held with
  | nil =>
      rw [List.flatten_nil,List.append_nil] at cut
      obtain ⟨rfl,rfl⟩ := drains_unique (encodes_drains encodes) (cut ▸ drains)
      exact ⟨[],(List.append_nil _).symm,.nil⟩
  | cons chunk chunks ih =>
      have onward : bytes ++ chunk ++ chunks.flatten = whole := by simpa using cut
      obtain ⟨arrived,rest,longer⟩ := prefix_drains encodes onward
      obtain ⟨others,rfl,later⟩ := drains_split drains longer
      obtain ⟨more,rfl,fed⟩ := ih onward longer
      exact ⟨others ++ more,List.append_assoc ..,.cons later fed⟩

theorem encodes_fed (encodes : c.Encodes values whole) (cut : chunks.flatten = whole) : c.Fed [] chunks values [] := by
  obtain ⟨others,rfl,fed⟩ := prefix_fed encodes ((List.nil_append _).trans cut) (.rest c.empty)
  exact fed

end Codec

end FrameStream
