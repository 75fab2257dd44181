import Mathlib.Data.List.Forall2

-- JSON texts as bytes: a parser, and the rules by which a printer's text is read
-- back. Strings are byte strings and numbers keep their spelling.
inductive Json where
  | null
  | bool (value : Bool)
  | number (token : List UInt8)
  | string (bytes : List UInt8)
  | array (items : List Json)
  | object (fields : List (List UInt8 × Json))

namespace Json

def isBlank (byte : UInt8) : Bool := byte == 0x20 || byte == 0x09 || byte == 0x0a || byte == 0x0d

def skipBlanks (input : List UInt8) : List UInt8 := input.dropWhile isBlank

def isDigit (byte : UInt8) : Bool := 0x30 ≤ byte && byte ≤ 0x39

def isNumeralByte (byte : UInt8) : Bool :=
  isDigit byte || byte == 0x2d || byte == 0x2b || byte == 0x2e || byte == 0x65 || byte == 0x45

def isWhole : List UInt8 → Bool
  | [] => false
  | [_] => true
  | first :: _ => first != 0x30

def isExponent : List UInt8 → Bool
  | [] => true
  | mark :: rest =>
    (mark == 0x65 || mark == 0x45) &&
      match rest with
      | [] => false
      | sign :: digits =>
        if sign == 0x2d || sign == 0x2b then !digits.isEmpty && digits.all isDigit else (sign :: digits).all isDigit

def isFraction : List UInt8 → Bool
  | [] => true
  | mark :: rest =>
    if mark = 0x2e then !(rest.takeWhile isDigit).isEmpty && isExponent (rest.dropWhile isDigit) else isExponent (mark :: rest)

def isUnsigned (token : List UInt8) : Bool := isWhole (token.takeWhile isDigit) && isFraction (token.dropWhile isDigit)

def isNumeral : List UInt8 → Bool
  | [] => false
  | first :: rest => if first = 0x2d then isUnsigned rest else isUnsigned (first :: rest)

def unescape (byte : UInt8) : Option UInt8 :=
  if byte = 0x22 ∨ byte = 0x5c ∨ byte = 0x2f then some byte
  else if byte = 0x62 then some 0x08
  else if byte = 0x66 then some 0x0c
  else if byte = 0x6e then some 0x0a
  else if byte = 0x72 then some 0x0d
  else if byte = 0x74 then some 0x09
  else none

def hexDigit (byte : UInt8) : Option Nat :=
  if 0x30 ≤ byte ∧ byte ≤ 0x39 then some (byte.toNat - 0x30)
  else if 0x61 ≤ byte ∧ byte ≤ 0x66 then some (byte.toNat - 0x61 + 10)
  else if 0x41 ≤ byte ∧ byte ≤ 0x46 then some (byte.toNat - 0x41 + 10)
  else none

def codeUnit (a b c d : UInt8) : Option Nat :=
  match hexDigit a,hexDigit b,hexDigit c,hexDigit d with
  | some a,some b,some c,some d => some (((a * 16 + b) * 16 + c) * 16 + d)
  | _,_,_,_ => none

-- UTF-8 of a character of the basic plane. Surrogates are not accepted.
def encodeUnit (unit : Nat) : Option (List UInt8) :=
  if unit < 0x80 then some [UInt8.ofNat unit]
  else if unit < 0x800 then some [UInt8.ofNat (0xc0 + unit / 64),UInt8.ofNat (0x80 + unit % 64)]
  else if 0xd800 ≤ unit ∧ unit < 0xe000 then none
  else some [UInt8.ofNat (0xe0 + unit / 4096),UInt8.ofNat (0x80 + unit / 64 % 64),UInt8.ofNat (0x80 + unit % 64)]

def quoted : List UInt8 → Option (List UInt8 × List UInt8)
  | [] => none
  | byte :: rest =>
    if byte = 0x22 then some ([],rest)
    else if byte = 0x5c then
      match rest with
      | [] => none
      | mark :: rest =>
        if mark = 0x75 then
          match rest with
          | a :: b :: c :: d :: rest =>
            match (codeUnit a b c d).bind encodeUnit with
            | none => none
            | some bytes => (quoted rest).map fun (later,rest) => (bytes ++ later,rest)
          | _ => none
        else match unescape mark with
          | none => none
          | some byte => (quoted rest).map fun (later,rest) => (byte :: later,rest)
    else if byte < 0x20 then none
    else (quoted rest).map fun (later,rest) => (byte :: later,rest)

section Lists
variable {α : Type}

def sequence (element : List UInt8 → Option (α × List UInt8)) (close : UInt8) :
    Nat → List UInt8 → Option (List α × List UInt8)
  | 0,_ => none
  | fuel + 1,input =>
    match element input with
    | none => none
    | some (_,[]) => none
    | some (item,next :: rest) =>
      if next = close then some ([item],rest)
      else if next = 0x2c then (sequence element close fuel rest).map fun (items,rest) => (item :: items,rest)
      else none

def brackets (element : List UInt8 → Option (α × List UInt8)) (close : UInt8) (fuel : Nat) (input : List UInt8) :
    Option (List α × List UInt8) :=
  match skipBlanks input with
  | [] => none
  | next :: rest => if next = close then some ([],rest) else sequence element close fuel (next :: rest)

def entry (element : List UInt8 → Option (α × List UInt8)) (input : List UInt8) :
    Option ((List UInt8 × α) × List UInt8) :=
  match skipBlanks input with
  | [] => none
  | next :: rest =>
    if next = 0x22 then
      match quoted rest with
      | none => none
      | some (key,rest) =>
        match skipBlanks rest with
        | [] => none
        | next :: rest => if next = 0x3a then (element rest).map fun (item,rest) => ((key,item),rest) else none
    else none

end Lists

def scalar (input : List UInt8) : Option (Json × List UInt8) :=
  if input.take 4 = [0x6e,0x75,0x6c,0x6c] then some (.null,input.drop 4)
  else if input.take 4 = [0x74,0x72,0x75,0x65] then some (.bool true,input.drop 4)
  else if input.take 5 = [0x66,0x61,0x6c,0x73,0x65] then some (.bool false,input.drop 5)
  else if isNumeral (input.takeWhile isNumeralByte) then
    some (.number (input.takeWhile isNumeralByte),input.dropWhile isNumeralByte)
  else none

def value : Nat → List UInt8 → Option (Json × List UInt8)
  | 0,_ => none
  | fuel + 1,input =>
    match skipBlanks input with
    | [] => none
    | next :: rest =>
      (if next = 0x5b then (brackets (value fuel) 0x5d fuel rest).map fun (items,rest) => (.array items,rest)
      else if next = 0x7b then (brackets (entry (value fuel)) 0x7d fuel rest).map fun (fields,rest) => (.object fields,rest)
      else if next = 0x22 then (quoted rest).map fun (bytes,rest) => (.string bytes,rest)
      else scalar (next :: rest)).map fun (json,rest) => (json,skipBlanks rest)

def parse (input : List UInt8) : Option Json :=
  match value input.length input with
  | some (json,[]) => some json
  | _ => none

section Blanks
variable {blanks : List UInt8}

theorem blank_stops (blank : isBlank byte = true) : isNumeralByte byte = false := by
  simp only [isBlank,Bool.or_eq_true,beq_iff_eq] at blank
  rcases blank with ((rfl | rfl) | rfl) | rfl <;> rfl

theorem skipBlanks_append (blank : blanks.all isBlank = true) (rest : List UInt8) :
    skipBlanks (blanks ++ rest) = skipBlanks rest := by
  induction blanks with
  | nil => rfl
  | cons byte blanks ih =>
      rw [List.all_cons,Bool.and_eq_true] at blank
      rw [List.cons_append,skipBlanks,List.dropWhile_cons_of_pos blank.1]
      exact ih blank.2

theorem skipBlanks_cons (visible : isBlank byte = false) (rest : List UInt8) : skipBlanks (byte :: rest) = byte :: rest :=
  List.dropWhile_cons_of_neg (by rw [visible]; decide)

theorem skipBlanks_skip (input : List UInt8) : skipBlanks (skipBlanks input) = skipBlanks input := by
  induction input with
  | nil => rfl
  | cons byte rest ih =>
      cases blank : isBlank byte with
      | true => rwa [show skipBlanks (byte :: rest) = skipBlanks rest from List.dropWhile_cons_of_pos blank]
      | false => rw [skipBlanks_cons blank,skipBlanks_cons blank]

def Stops (rest : List UInt8) : Prop := ∀ next ∈ rest.head?, isNumeralByte next = false

theorem stops_cons (stop : isNumeralByte byte = false) (rest : List UInt8) : Stops (byte :: rest) := by
  intro next head
  cases Option.some.inj head
  exact stop

theorem stops_blanks (blank : blanks.all isBlank = true) (stops : Stops rest) : Stops (blanks ++ rest) := by
  cases blanks with
  | nil => exact stops
  | cons byte blanks =>
      rw [List.all_cons,Bool.and_eq_true] at blank
      exact stops_cons (blank_stops blank.1) _

end Blanks

def Quotes (bytes text : List UInt8) : Prop := ∀ rest, quoted (text ++ rest) = some (bytes,rest)

theorem quotes_end : Quotes [] [0x22] := by
  intro rest
  rw [List.cons_append,quoted.eq_def]
  exact if_pos rfl

theorem quotes_raw (visible : byte ≠ 0x22 ∧ byte ≠ 0x5c ∧ ¬byte < 0x20) (quotes : Quotes bytes text) :
    Quotes (byte :: bytes) (byte :: text) := by
  intro rest
  rw [List.cons_append,quoted.eq_def]
  dsimp only
  rw [if_neg visible.1,if_neg visible.2.1,if_neg visible.2.2,quotes rest]
  rfl

theorem quotes_escape (plain : mark ≠ 0x75) (stands : unescape mark = some byte) (quotes : Quotes bytes text) :
    Quotes (byte :: bytes) (0x5c :: mark :: text) := by
  intro rest
  rw [List.cons_append,List.cons_append,quoted.eq_def]
  dsimp only
  rw [if_neg (by decide),if_pos rfl,if_neg plain,stands]
  dsimp only
  rw [quotes rest]
  rfl

theorem quotes_unit (stands : (codeUnit a b c d).bind encodeUnit = some front) (quotes : Quotes bytes text) :
    Quotes (front ++ bytes) (0x5c :: 0x75 :: a :: b :: c :: d :: text) := by
  intro rest
  simp only [List.cons_append]
  rw [quoted.eq_def]
  dsimp only
  rw [if_neg (by decide),if_pos rfl,if_pos rfl,stands]
  dsimp only
  rw [quotes rest]
  rfl

def joined : List (List UInt8) → List UInt8
  | [] => []
  | [text] => text
  | text :: next :: rest => text ++ 0x2c :: joined (next :: rest)

theorem joined_length (texts : List (List UInt8)) (listed : text ∈ texts) : text.length ≤ (joined texts).length := by
  induction texts using joined.induct with
  | case1 => cases listed
  | case2 only =>
      rw [List.mem_singleton.mp listed]
      exact Nat.le_refl _
  | case3 first next rest ih =>
      rw [joined,List.length_append,List.length_cons]
      rcases List.mem_cons.mp listed with rfl | later
      · omega
      · have bound := ih later
        omega

theorem joined_count (texts : List (List UInt8)) (nonempty : ∀ text ∈ texts, text ≠ []) :
    texts.length ≤ (joined texts).length := by
  induction texts using joined.induct with
  | case1 => exact Nat.le_refl _
  | case2 only =>
      rw [joined]
      exact List.length_pos_iff.mpr (nonempty only List.mem_cons_self)
  | case3 first next rest ih =>
      have bound := ih fun text later => nonempty text (List.mem_cons_of_mem _ later)
      rw [joined,List.length_append,List.length_cons]
      simp only [List.length_cons] at bound ⊢
      omega

section Elements
variable {α : Type} {element : List UInt8 → Option (α × List UInt8)} {close : UInt8}

structure Skips (element : List UInt8 → Option (α × List UInt8)) (close : UInt8) : Prop where
  skips : ∀ input, element (skipBlanks input) = element input
  empty : element [] = none
  closed : ∀ rest, element (close :: rest) = none

def ReadsAs (element : List UInt8 → Option (α × List UInt8)) (item : α) (text : List UInt8) : Prop :=
  ∀ rest, Stops rest → element (text ++ rest) = some (item,skipBlanks rest)

theorem sequence_reads (ends : isBlank close = false ∧ isNumeralByte close = false ∧ close ≠ 0x2c)
    (blank : blanks.all isBlank = true) (some : texts ≠ [])
    (read : List.Forall₂ (fun text item => ReadsAs element item text) texts items) (enough : texts.length ≤ fuel)
    (rest : List UInt8) :
    sequence element close fuel (joined texts ++ (blanks ++ close :: rest)) = .some (items,rest) := by
  induction read generalizing fuel with
  | nil => exact absurd rfl some
  | cons first later ih =>
      obtain ⟨fuel,rfl⟩ : ∃ n, fuel = n + 1 := ⟨fuel - 1,by simp only [List.length_cons] at enough; omega⟩
      cases later with
      | nil =>
          have stops := stops_blanks blank (stops_cons ends.2.1 rest)
          rw [joined,sequence,first _ stops,skipBlanks_append blank,skipBlanks_cons ends.1]
          exact if_pos rfl
      | cons next later =>
          have further := ih (by simp) (Nat.le_of_succ_le_succ enough)
          rw [joined,List.append_assoc,List.cons_append,sequence,first _ (stops_cons rfl _),skipBlanks_cons rfl]
          dsimp only
          rw [if_neg (Ne.symm ends.2.2),if_pos rfl,further]
          rfl

theorem brackets_reads (ends : isBlank close = false ∧ isNumeralByte close = false ∧ close ≠ 0x2c)
    (skips : Skips element close) (blank : blanks.all isBlank = true)
    (read : List.Forall₂ (fun text item => ReadsAs element item text) texts items) (enough : texts.length ≤ fuel)
    (rest : List UInt8) :
    brackets element close fuel (joined texts ++ (blanks ++ close :: rest)) = some (items,rest) := by
  by_cases none : texts = []
  · subst none
    cases read
    rw [joined,List.nil_append,brackets,skipBlanks_append blank,skipBlanks_cons ends.1]
    exact if_pos rfl
  · have read := sequence_reads ends blank none read enough rest
    generalize joined texts ++ (blanks ++ close :: rest) = input at read
    obtain ⟨fuel,rfl⟩ : ∃ n, fuel = n + 1 := by
      have count := List.length_pos_iff.mpr none
      exact ⟨fuel - 1,by omega⟩
    rw [sequence,← skips.skips] at read
    unfold brackets
    cases seen : skipBlanks input with
    | nil =>
        rw [seen,skips.empty] at read
        cases read
    | cons next after =>
        rw [seen] at read
        have other : next ≠ close := by
          rintro rfl
          rw [skips.closed] at read
          cases read
        dsimp only
        rw [if_neg other,sequence]
        exact read

end Elements

theorem value_skips (fuel : Nat) (input : List UInt8) : value fuel (skipBlanks input) = value fuel input := by
  cases fuel with
  | zero => rfl
  | succ fuel => rw [value,value,skipBlanks_skip]

def Reads (json : Json) (text : List UInt8) : Prop := ∀ fuel, text.length ≤ fuel → ReadsAs (value fuel) json text

theorem Reads.nonempty (reads : Reads json text) : text ≠ [] := by
  rintro rfl
  cases reads 0 (Nat.le_refl 0) [] (fun _ head => nomatch head)

theorem reads_after (blank : blanks.all isBlank = true) (reads : Reads json text) : Reads json (blanks ++ text) := by
  intro fuel enough rest stops
  rw [List.length_append] at enough
  rw [List.append_assoc,← value_skips,skipBlanks_append blank,value_skips]
  exact reads fuel (by omega) rest stops

theorem reads_before (blank : blanks.all isBlank = true) (reads : Reads json text) : Reads json (text ++ blanks) := by
  intro fuel enough rest stops
  rw [List.length_append] at enough
  rw [List.append_assoc,← skipBlanks_append blank rest]
  exact reads fuel (by omega) _ (stops_blanks blank stops)

theorem value_visible (visible : isBlank next = false) (fuel : Nat) (rest : List UInt8) :
    value (fuel + 1) (next :: rest) =
      (if next = 0x5b then (brackets (value fuel) 0x5d fuel rest).map fun (items,rest) => (.array items,rest)
      else if next = 0x7b then (brackets (entry (value fuel)) 0x7d fuel rest).map fun (fields,rest) => (.object fields,rest)
      else if next = 0x22 then (quoted rest).map fun (bytes,rest) => (.string bytes,rest)
      else scalar (next :: rest)).map fun (json,rest) => (json,skipBlanks rest) := by
  rw [value,skipBlanks_cons visible]

theorem reads_cons
    (read : ∀ fuel, text.length ≤ fuel → ∀ rest, Stops rest →
      value (fuel + 1) (next :: (text ++ rest)) = some (json,skipBlanks rest)) : Reads json (next :: text) := by
  intro fuel enough rest stops
  obtain ⟨fuel,rfl⟩ : ∃ n, fuel = n + 1 := ⟨fuel - 1,by simp only [List.length_cons] at enough; omega⟩
  exact read fuel (Nat.le_of_succ_le_succ enough) rest stops

theorem reads_string (quotes : Quotes bytes text) : Reads (.string bytes) (0x22 :: text) := by
  refine reads_cons fun fuel _ rest _ => ?_
  rw [value_visible rfl,if_neg (by decide),if_neg (by decide),if_pos rfl,quotes rest]
  rfl

theorem reads_null : Reads .null [0x6e,0x75,0x6c,0x6c] := by
  refine reads_cons fun fuel _ rest _ => ?_
  rw [value_visible rfl]
  rfl

theorem reads_true : Reads (.bool true) [0x74,0x72,0x75,0x65] := by
  refine reads_cons fun fuel _ rest _ => ?_
  rw [value_visible rfl]
  rfl

theorem reads_false : Reads (.bool false) [0x66,0x61,0x6c,0x73,0x65] := by
  refine reads_cons fun fuel _ rest _ => ?_
  rw [value_visible rfl]
  rfl

section Numbers
variable {token : List UInt8}

theorem digits_bytes (digits : token.all isDigit = true) : token.all isNumeralByte = true := by
  rw [List.all_eq_true] at digits ⊢
  intro byte listed
  simp [isNumeralByte,digits byte listed]

theorem whole_bytes (token : List UInt8) : (token.takeWhile isDigit).all isNumeralByte = true :=
  digits_bytes List.all_takeWhile

theorem exponent_bytes (exponent : isExponent token = true) : token.all isNumeralByte = true := by
  cases token with
  | nil => rfl
  | cons mark rest =>
      simp only [isExponent,Bool.and_eq_true,Bool.or_eq_true,beq_iff_eq] at exponent
      obtain ⟨marked,exponent⟩ := exponent
      have marks : isNumeralByte mark = true := by rcases marked with rfl | rfl <;> rfl
      rw [List.all_cons,marks,Bool.true_and]
      cases rest with
      | nil => rfl
      | cons sign digits =>
          dsimp only at exponent
          split at exponent
          · rename_i signed
            have signs : isNumeralByte sign = true := by rcases signed with rfl | rfl <;> rfl
            rw [Bool.and_eq_true] at exponent
            rw [List.all_cons,signs,digits_bytes exponent.2]
            rfl
          · exact digits_bytes exponent

theorem fraction_bytes (fraction : isFraction token = true) : token.all isNumeralByte = true := by
  cases token with
  | nil => rfl
  | cons mark rest =>
      rw [isFraction] at fraction
      split at fraction
      · rename_i point
        rw [Bool.and_eq_true] at fraction
        subst point
        rw [← List.takeWhile_append_dropWhile (p := isDigit) (l := rest)]
        simp only [List.all_cons,List.all_append,whole_bytes,exponent_bytes fraction.2]
        rfl
      · exact exponent_bytes fraction

theorem unsigned_bytes (unsigned : isUnsigned token = true) : token.all isNumeralByte = true := by
  rw [isUnsigned,Bool.and_eq_true] at unsigned
  rw [← List.takeWhile_append_dropWhile (p := isDigit) (l := token),List.all_append,whole_bytes,
    fraction_bytes unsigned.2]
  rfl

theorem numeral_bytes (numeral : isNumeral token = true) : token.all isNumeralByte = true := by
  cases token with
  | nil => rfl
  | cons first rest =>
      rw [isNumeral] at numeral
      split at numeral
      · rename_i minus
        subst minus
        rw [List.all_cons,unsigned_bytes numeral]
        rfl
      · exact unsigned_bytes numeral

theorem numeral_spans (bytes : token.all isNumeralByte = true) (stops : Stops rest) :
    (token ++ rest).takeWhile isNumeralByte = token ∧ (token ++ rest).dropWhile isNumeralByte = rest := by
  rw [List.all_eq_true] at bytes
  rw [List.takeWhile_append_of_pos bytes,List.dropWhile_append_of_pos bytes]
  cases rest with
  | nil => exact ⟨List.append_nil _,rfl⟩
  | cons next rest =>
      have ends : ¬isNumeralByte next = true := by
        rw [stops next rfl]
        decide
      exact ⟨by rw [List.takeWhile_cons_of_neg ends,List.append_nil],List.dropWhile_cons_of_neg ends⟩

theorem numeral_first (numeral : isNumeralByte first = true) :
    isBlank first = false ∧ first ≠ 0x5b ∧ first ≠ 0x7b ∧ first ≠ 0x22 ∧ first ≠ 0x6e ∧ first ≠ 0x74 ∧ first ≠ 0x66 := by
  refine ⟨?_,?_,?_,?_,?_,?_,?_⟩
  · cases blank : isBlank first with
    | false => rfl
    | true => exact absurd (numeral.symm.trans (blank_stops blank)) (by decide)
  all_goals
    rintro rfl
    cases numeral

theorem reads_number (numeral : isNumeral token = true) : Reads (.number token) token := by
  cases token with
  | nil => cases numeral
  | cons first text =>
      have bytes := numeral_bytes numeral
      rw [List.all_cons,Bool.and_eq_true] at bytes
      obtain ⟨visible,array,object,string,null,yes,no⟩ := numeral_first bytes.1
      refine reads_cons fun fuel _ rest stops => ?_
      obtain ⟨token,left⟩ := numeral_spans (numeral_bytes numeral) stops
      rw [List.cons_append] at token left
      rw [value_visible visible,if_neg array,if_neg object,if_neg string,scalar,if_neg (by simp [null]),
        if_neg (by simp [yes]),if_neg (by simp [no]),token,left,if_pos numeral]
      rfl

end Numbers

theorem value_array (fuel : Nat) : Skips (value fuel) 0x5d where
  skips := value_skips fuel
  empty := by cases fuel <;> rfl
  closed := by
    intro rest
    cases fuel with
    | zero => rfl
    | succ fuel =>
        rw [value_visible rfl]
        rfl

theorem texts_fit {texts : List (List UInt8)} (nonempty : ∀ text ∈ texts, text ≠ [])
    (enough : (joined texts ++ rest).length ≤ fuel) : texts.length ≤ fuel ∧ ∀ text ∈ texts, text.length ≤ fuel := by
  rw [List.length_append] at enough
  constructor
  · have count := joined_count texts nonempty
    omega
  · intro text listed
    have bound := joined_length texts listed
    omega

theorem reads_array {texts : List (List UInt8)} (blank : blanks.all isBlank = true)
    (reads : List.Forall₂ (fun text json => Reads json text) texts items) :
    Reads (.array items) (0x5b :: (joined texts ++ (blanks ++ [0x5d]))) := by
  refine reads_cons fun fuel enough rest stops => ?_
  have nonempty : ∀ text ∈ texts, text ≠ [] :=
    (List.forall₂_and_left _ _ |>.mp (reads.imp fun _ _ read => ⟨read.nonempty,read⟩)).1
  obtain ⟨count,fits⟩ := texts_fit nonempty enough
  have read := (List.forall₂_and_left _ _ |>.mpr ⟨fits,reads⟩).imp fun _ _ both => both.2 fuel both.1
  rw [value_visible rfl,if_pos rfl,List.append_assoc,List.append_assoc,List.singleton_append,
    brackets_reads (by decide) (value_array fuel) blank read count rest]
  rfl

inductive Member : List UInt8 → List UInt8 × Json → Prop where
  | spelled {blanks key name text : List UInt8} {json : Json} (blank : blanks.all isBlank = true)
      (quotes : Quotes key name) (reads : Reads json text) :
    Member (blanks ++ 0x22 :: (name ++ 0x3a :: text)) (key,json)

theorem Member.nonempty (member : Member text field) : text ≠ [] := by
  cases member
  simp

theorem entry_object (fuel : Nat) : Skips (entry (value fuel)) 0x7d where
  skips := by
    intro input
    rw [entry,entry,skipBlanks_skip]
  empty := rfl
  closed := fun _ => rfl

theorem entry_reads (member : Member text field) (enough : text.length ≤ fuel) :
    ReadsAs (entry (value fuel)) field text := by
  intro rest stops
  cases member with
  | @spelled blanks key name spelled json blank quotes reads =>
      have fits : spelled.length ≤ fuel := by
        simp only [List.length_append,List.length_cons] at enough
        omega
      rw [List.append_assoc,entry,skipBlanks_append blank,List.cons_append,skipBlanks_cons rfl]
      dsimp only
      rw [if_pos rfl,List.append_assoc,quotes,List.cons_append]
      dsimp only
      rw [skipBlanks_cons rfl]
      dsimp only
      rw [if_pos rfl,reads fuel fits rest stops]
      rfl

theorem reads_object {texts : List (List UInt8)} (blank : blanks.all isBlank = true)
    (members : List.Forall₂ Member texts fields) :
    Reads (.object fields) (0x7b :: (joined texts ++ (blanks ++ [0x7d]))) := by
  refine reads_cons fun fuel enough rest stops => ?_
  have nonempty : ∀ text ∈ texts, text ≠ [] :=
    (List.forall₂_and_left _ _ |>.mp (members.imp fun _ _ member => ⟨member.nonempty,member⟩)).1
  obtain ⟨count,fits⟩ := texts_fit nonempty enough
  have read := (List.forall₂_and_left _ _ |>.mpr ⟨fits,members⟩).imp fun _ _ both => entry_reads both.2 both.1
  rw [value_visible rfl,if_neg (by decide),if_pos rfl,List.append_assoc,List.append_assoc,List.singleton_append,
    brackets_reads (by decide) (entry_object fuel) blank read count rest]
  rfl

theorem parse_reads (reads : Reads json text) : parse text = some json := by
  have found := reads text.length (Nat.le_refl _) [] (fun _ head => nomatch head)
  rw [List.append_nil] at found
  rw [parse,found]
  rfl

end Json
