import RobotControlRuntime.Library.AppendLog
import Mathlib.Logic.Function.Iterate

namespace RobotControlRuntime.Firmware
open AppendLog

def sessionRecordCount : Nat := 256

-- A flash word as its two half-words, the low one first; programming goes by half-words.
structure SessionRecord where
  value : UInt16
  complement : UInt16
  deriving DecidableEq, Repr

namespace SessionRecord

def erased : SessionRecord := ⟨0xFFFF,0xFFFF⟩

def session (record : SessionRecord) : Option UInt16 :=
  if record.value ≠ 0 ∧ record.complement = ~~~record.value then some record.value else none

end SessionRecord

structure SessionPage where
  records : List SessionRecord
  sized : records.length = sessionRecordCount

namespace SessionPage

def blank : SessionPage := ⟨List.replicate sessionRecordCount .erased,List.length_replicate⟩

def record (page : SessionPage) (index : Nat) : SessionRecord := page.records.getD index .erased

def set (page : SessionPage) (index : Nat) (record : SessionRecord) : SessionPage :=
  ⟨page.records.set index record,by rw [List.length_set,page.sized]⟩

end SessionPage

-- What the flash makes of one operation: whether the cells took it, and what
-- flash_wait says of it.
structure FlashOutcome where
  taken : Bool := true
  ok : Bool := true
  deriving DecidableEq, Repr

-- `lost` is the number of flash operations after which the power goes, if it goes
-- before the end.
structure Boot where
  erase : FlashOutcome := {}
  value : FlashOutcome := {}
  complement : FlashOutcome := {}
  lost : Option Nat := none
  deriving DecidableEq, Repr

def flashProgramHalfword (half value : UInt16) (outcome : FlashOutcome) : UInt16 × Bool :=
  let half := if outcome.taken then value else half
  (half,outcome.ok && half == value)

def flashEraseSessionPage (page : SessionPage) (outcome : FlashOutcome) : SessionPage × Bool :=
  let page := if outcome.taken then .blank else page
  (page,outcome.ok && page.record 0 == .erased)

structure SessionScan where
  last : UInt16 := 0
  empty : Option Nat := none
  deriving DecidableEq, Repr

def scanRecords (index : Nat) (found : SessionScan) : List SessionRecord → SessionScan
  | [] => found
  | record :: rest =>
    if record = .erased then
      scanRecords (index + 1) (if found.empty = none then {found with empty := some index} else found) rest
    else if record.value ≠ 0 ∧ record.complement = ~~~record.value then
      scanRecords (index + 1) {found with last := record.value} rest
    else scanRecords (index + 1) found rest

def succSession (last : UInt16) : UInt16 := if last = 0xFFFF then 1 else last + 1

def programRecord (page : SessionPage) (index : Nat) (next : UInt16) (boot : Boot) (done : Nat) :
    SessionPage × Option (Bool × UInt16) :=
  let (value,valueOk) := flashProgramHalfword (page.record index).value next boot.value
  let page := page.set index {page.record index with value := value}
  if boot.lost = some (done + 1) then (page,none)
  else if valueOk = false then (page,some (false,next))
  else
    let (complement,complementOk) := flashProgramHalfword (page.record index).complement (~~~next) boot.complement
    let page := page.set index {page.record index with complement := complement}
    if boot.lost = some (done + 2) then (page,none) else (page,some (complementOk,next))

-- rcr_platform_next_session: what it returns and the session it stores, or nothing
-- if the power went.
def nextSession (page : SessionPage) (boot : Boot) : SessionPage × Option (Bool × UInt16) :=
  let found := scanRecords 0 {} page.records
  let next := succSession found.last
  if boot.lost = some 0 then (page,none)
  else match found.empty with
    | some index => programRecord page index next boot 0
    | none =>
      let (page,erased) := flashEraseSessionPage page boot.erase
      if boot.lost = some 1 then (page,none)
      else if erased = false then (page,some (false,next))
      else programRecord page 0 next boot 1

def booted (page : SessionPage) (boot : Boot) : Option UInt16 :=
  match (nextSession page boot).2 with
  | some (true,session) => some session
  | _ => none

def journalAfter (page : SessionPage) (boots : List Boot) : SessionPage :=
  boots.foldl (fun page boot => (nextSession page boot).1) page

-- Nothing goes wrong from the erase of a full page to the end of the record that
-- follows it. The erase may also not begin at all.
def Sheltered (page : SessionPage) (boot : Boot) : Prop :=
  (scanRecords 0 {} page.records).empty = none → boot.lost ≠ some 0 → boot.erase.taken = true →
    boot.erase.ok = true ∧ boot.value = {} ∧ boot.complement = {} ∧ boot.lost ≠ some 1 ∧ boot.lost ≠ some 2

def ShelteredBoots (page : SessionPage) (boots : List Boot) : Prop :=
  ∀ earlier boot later,boots = earlier ++ boot :: later → Sheltered (journalAfter page earlier) boot

section Words

theorem succSession_nonzero (last : UInt16) : succSession last ≠ 0 := by
  unfold succSession
  split
  · decide
  · rename_i below
    intro wrapped
    have number := congrArg UInt16.toNat wrapped
    have top : last.toNat ≠ 65535 := fun same => below (UInt16.toNat_inj.mp same)
    have bound := last.toNat_lt
    rw [UInt16.toNat_add] at number
    change (last.toNat + 1) % 65536 = 0 at number
    omega

theorem complement_blank (blank : ~~~value = (0xFFFF : UInt16)) : value = 0 := by
  have back := congrArg (~~~·) blank
  rw [UInt16.not_not] at back
  exact back.trans (by decide)

end Words

namespace SessionRecord

theorem erased_unread : erased.session = none := rfl

theorem complete_read (nonzero : next ≠ 0) : session ⟨next,~~~next⟩ = some next := if_pos ⟨nonzero,rfl⟩

theorem complete_fresh (nonzero : next ≠ 0) : (⟨next,~~~next⟩ : SessionRecord) ≠ erased := by
  intro same
  exact nonzero (complement_blank (congrArg complement same))

-- The low half alone; with 0xFFFF in it the record still looks blank.
theorem torn_unread (nonzero : next ≠ 0) : session ⟨next,0xFFFF⟩ = none :=
  if_neg fun valid => nonzero (complement_blank valid.2.symm)

end SessionRecord

def newestSession (page : SessionPage) : UInt16 := newest SessionRecord.session 0 page.records

theorem scan_written (fresh : record ≠ .erased) (rest : List SessionRecord) :
    scanRecords index found (record :: rest) =
      scanRecords (index + 1) {found with last := record.session.getD found.last} rest := by
  rw [scanRecords,if_neg fresh]
  split
  · rename_i valid
    rw [SessionRecord.session,if_pos valid,Option.getD_some]
  · rename_i invalid
    rw [SessionRecord.session,if_neg invalid,Option.getD_none]

theorem scan_used (used rest : List SessionRecord) (written : ∀ record ∈ used,record ≠ .erased) :
    scanRecords index found (used ++ rest) =
      scanRecords (index + used.length) {found with last := newest SessionRecord.session found.last used} rest := by
  induction used generalizing index found with
  | nil => rfl
  | cons record used ih =>
      have fresh := written record List.mem_cons_self
      have others := fun other present => written other (List.mem_cons_of_mem _ present)
      have count : index + (record :: used).length = index + 1 + used.length := by
        rw [List.length_cons]
        omega
      rw [List.cons_append,scan_written fresh,ih others,count]
      rfl

theorem scan_blank (free : Nat) (known : found.empty ≠ none) :
    scanRecords index found (List.replicate free .erased) = found := by
  induction free generalizing index with
  | zero => rfl
  | succ free ih =>
      rw [List.replicate_succ,scanRecords,if_pos rfl,if_neg known]
      exact ih

theorem scan_filled (filled : Filled .erased used free page.records) :
    scanRecords 0 {} page.records = ⟨newestSession page,if free = 0 then none else some used.length⟩ := by
  have last : newestSession page = newest SessionRecord.session 0 used := filled.newest_used SessionRecord.erased_unread
  rw [last,filled.split,scan_used used _ filled.written,Nat.zero_add]
  cases free with
  | zero => rfl
  | succ free =>
      rw [List.replicate_succ,scanRecords,if_pos rfl,if_pos rfl]
      exact scan_blank free (by simp)

theorem half_exact (half value : UInt16) (outcome : FlashOutcome) :
    ((flashProgramHalfword half value outcome).1 = half ∨ (flashProgramHalfword half value outcome).1 = value) ∧
      ((flashProgramHalfword half value outcome).2 = true → (flashProgramHalfword half value outcome).1 = value) := by
  constructor
  · cases taken : outcome.taken with
    | false => exact Or.inl (by simp [flashProgramHalfword,taken])
    | true => exact Or.inr (by simp [flashProgramHalfword,taken])
  · intro reported
    simp only [flashProgramHalfword,Bool.and_eq_true,beq_iff_eq] at reported
    exact reported.2

namespace SessionPage

theorem record_set (page : SessionPage) (record : SessionRecord) (inside : index < sessionRecordCount) :
    (page.set index record).record index = record := by
  have bound : index < page.records.length := by rw [page.sized]; exact inside
  simp [SessionPage.record,SessionPage.set,bound]

theorem set_set (page : SessionPage) (index : Nat) (first second : SessionRecord) :
    (page.set index first).set index second = page.set index second := by
  simp [SessionPage.set]

end SessionPage

inductive RecordLeft (page : SessionPage) (index : Nat) (next : UInt16) : SessionPage × Option (Bool × UInt16) → Prop where
  | unread (record : SessionRecord) (torn : record = .erased ∨ record = ⟨next,0xFFFF⟩) (failed : ∀ session,result ≠ some (true,session)) :
      RecordLeft page index next (page.set index record,result)
  | complete (returned : ∀ ok session,result = some (ok,session) → session = next) :
      RecordLeft page index next (page.set index ⟨next,~~~next⟩,result)

theorem complement_left (page : SessionPage) (index : Nat) (nonzero : next ≠ 0) (complements : complement = 0xFFFF ∨ complement = ~~~next)
    (complemented : ok = true → complement = ~~~next) (lost : Prop) [Decidable lost] :
    RecordLeft page index next
      (if lost then (page.set index ⟨next,complement⟩,none) else (page.set index ⟨next,complement⟩,some (ok,next))) := by
  rcases complements with rfl | rfl
  · have failed : ok = false := by
      cases ok with
      | false => rfl
      | true => exact absurd (complement_blank (complemented rfl).symm) nonzero
    split <;> exact .unread _ (Or.inr rfl) (by simp [failed])
  · split <;> exact .complete (by simp)

theorem programRecord_left (page : SessionPage) (boot : Boot) (done : Nat) (inside : index < sessionRecordCount)
    (blank : page.record index = .erased) (nonzero : next ≠ 0) :
    RecordLeft page index next (programRecord page index next boot done) := by
  obtain ⟨values,valued⟩ := half_exact 0xFFFF next boot.value
  obtain ⟨complements,complemented⟩ := half_exact 0xFFFF (~~~next) boot.complement
  have low : (page.record index).value = 0xFFFF := by rw [blank]; rfl
  have high : (page.record index).complement = 0xFFFF := by rw [blank]; rfl
  unfold programRecord
  simp only [low,high,page.record_set _ inside,page.set_set]
  generalize flashProgramHalfword 0xFFFF next boot.value = first at *
  generalize flashProgramHalfword 0xFFFF (~~~next) boot.complement = second at *
  obtain ⟨value,valueOk⟩ := first
  obtain ⟨complement,complementOk⟩ := second
  have torn : (⟨value,0xFFFF⟩ : SessionRecord) = .erased ∨ (⟨value,0xFFFF⟩ : SessionRecord) = ⟨next,0xFFFF⟩ := by
    rcases values with rfl | rfl
    · exact Or.inl rfl
    · exact Or.inr rfl
  split
  · exact .unread _ torn (by simp)
  split
  · exact .unread _ torn (by simp)
  · rename_i _ reported
    have same : value = next := valued (by simpa using reported)
    subst same
    exact complement_left page index nonzero complements complemented _

theorem programRecord_sheltered (page : SessionPage) (next : UInt16) (done : Nat) (inside : index < sessionRecordCount) (value : boot.value = {})
    (complement : boot.complement = {}) (powered : boot.lost ≠ some (done + 1)) :
    (programRecord page index next boot done).1 = page.set index ⟨next,~~~next⟩ ∧
      ∀ ok session,(programRecord page index next boot done).2 = some (ok,session) → session = next := by
  unfold programRecord
  simp only [value,complement,flashProgramHalfword,page.record_set _ inside,page.set_set,if_neg powered,if_true,beq_self_eq_true,
    Bool.and_self,Bool.true_eq_false,if_false]
  split
  · exact ⟨rfl,by simp⟩
  · refine ⟨rfl,?_⟩
    intro ok session returned
    cases returned
    rfl

-- What one boot does to the journal: its newest session stays or advances by one,
-- and a boot that succeeds gets the advanced one.
structure Advanced (page : SessionPage) (outcome : SessionPage × Option (Bool × UInt16)) : Prop where
  filled : ∃ used free,Filled .erased used free outcome.1.records
  newest : newestSession outcome.1 = newestSession page ∨ newestSession outcome.1 = succSession (newestSession page)
  returned : ∀ session,outcome.2 = some (true,session) →
    session = succSession (newestSession page) ∧ newestSession outcome.1 = session

theorem unchanged_advanced (filled : Filled .erased used free page.records) (failed : ∀ session,result ≠ some (true,session)) :
    Advanced page (page,result) :=
  ⟨⟨used,free,filled⟩,Or.inl rfl,fun session returned => absurd returned (failed session)⟩

theorem complete_newest (page : SessionPage) (filled : Filled .erased used (free + 1) page.records) (nonzero : next ≠ 0) :
    newestSession (page.set used.length ⟨next,~~~next⟩) = next := by
  refine (filled.newest_write SessionRecord.erased_unread _).trans ?_
  rw [SessionRecord.complete_read nonzero,Option.getD_some]

theorem left_advanced (filled : Filled .erased used (free + 1) page.records)
    (left : RecordLeft page used.length (succSession (newestSession page)) outcome) : Advanced page outcome := by
  have nonzero := succSession_nonzero (newestSession page)
  cases left with
  | unread record torn failed =>
      have unread : record.session = none := by
        rcases torn with rfl | rfl
        · rfl
        · exact SessionRecord.torn_unread nonzero
      refine ⟨?_,Or.inl ?_,fun session returned => absurd returned (failed session)⟩
      · by_cases fresh : record = .erased
        · refine ⟨used,free + 1,?_⟩
          show Filled _ _ _ (page.records.set used.length record)
          rw [fresh,filled.unwritten]
          exact filled
        · exact ⟨_,free,filled.append fresh⟩
      · refine (filled.newest_write SessionRecord.erased_unread record).trans ?_
        rw [unread,Option.getD_none]
        rfl
  | complete returned =>
      have last := complete_newest page filled nonzero
      refine ⟨⟨_,free,filled.append (SessionRecord.complete_fresh nonzero)⟩,Or.inr last,?_⟩
      intro session success
      rw [returned true session success]
      exact ⟨rfl,last⟩

theorem blank_filled : Filled .erased [] sessionRecordCount SessionPage.blank.records := filled_blank _ _

theorem restarted_advanced (value : boot.value = {}) (complement : boot.complement = {}) (powered : boot.lost ≠ some 2) :
    Advanced page (programRecord .blank 0 (succSession (newestSession page)) boot 1) := by
  have nonzero := succSession_nonzero (newestSession page)
  have start : Filled .erased [] (255 + 1) SessionPage.blank.records := blank_filled
  have fresh := start.append (SessionRecord.complete_fresh nonzero)
  have last := complete_newest .blank start nonzero
  rw [List.length_nil] at last
  have inside : 0 < sessionRecordCount := by decide
  obtain ⟨set,returned⟩ := programRecord_sheltered .blank (succSession (newestSession page)) 1 inside value complement powered
  refine ⟨?_,Or.inr ?_,?_⟩
  · rw [set]
    exact ⟨_,255,fresh⟩
  · rw [set,last]
  · intro session success
    rw [set,last,returned true session success]
    exact ⟨rfl,rfl⟩

theorem full_record {page : SessionPage} (filled : Filled .erased used 0 page.records) : page.record 0 ≠ .erased := by
  have sized := page.sized
  rw [filled.split,List.replicate_zero,List.append_nil] at sized
  match used,filled,sized with
  | record :: rest,filled,_ =>
      have first : page.record 0 = record := by
        rw [SessionPage.record,filled.split]
        rfl
      rw [first]
      exact filled.written record List.mem_cons_self

theorem full_advanced (filled : Filled .erased used 0 page.records) (sheltered : Sheltered page boot)
    (powered : boot.lost ≠ some 0) : Advanced page (nextSession page boot) := by
  have scanned := scan_filled filled
  have full : (scanRecords 0 {} page.records).empty = none := by rw [scanned,if_pos rfl]
  unfold nextSession
  simp only [scanned,if_neg powered,if_true]
  cases taken : boot.erase.taken with
  | true =>
      obtain ⟨ok,value,complement,early,late⟩ := sheltered full powered taken
      have blank : (SessionPage.blank.record 0 == SessionRecord.erased) = true := by decide +kernel
      simp only [flashEraseSessionPage,taken,ok,if_true,blank,Bool.and_self,if_neg early,Bool.true_eq_false,if_false]
      exact restarted_advanced value complement late
  | false =>
      have written : (page.record 0 == SessionRecord.erased) = false := beq_false_of_ne (full_record filled)
      simp only [flashEraseSessionPage,taken,Bool.false_eq_true,if_false,written,Bool.and_false,if_true]
      split
      · exact unchanged_advanced filled (by simp)
      · exact unchanged_advanced filled (by simp)

theorem boot_advanced (filled : Filled .erased used free page.records) (sheltered : Sheltered page boot) :
    Advanced page (nextSession page boot) := by
  by_cases lost : boot.lost = some 0
  · unfold nextSession
    simp only [lost,if_true]
    exact unchanged_advanced filled (by simp)
  · cases free with
    | zero => exact full_advanced filled sheltered lost
    | succ free =>
        have blank : page.record used.length = .erased := by
          rw [SessionPage.record,List.getD_eq_getElem?_getD,filled.next_blank,Option.getD_some]
        have inside : used.length < sessionRecordCount := by
          have sized := page.sized
          rw [filled.split,List.length_append,List.length_replicate] at sized
          omega
        unfold nextSession
        simp only [scan_filled filled,if_neg lost,Nat.add_one_ne_zero,if_false]
        exact left_advanced filled (programRecord_left page boot 0 inside blank (succSession_nonzero _))

theorem booted_exact : booted page boot = some session ↔ (nextSession page boot).2 = some (true,session) := by
  unfold booted
  split
  · rename_i other returned
    rw [returned]
    simp
  · rename_i failed
    constructor
    · intro got
      cases got
    · intro returned
      exact absurd returned (failed session)

theorem boots_advanced (filled : ∃ used free,Filled .erased used free page.records) (sheltered : ShelteredBoots page boots) :
    (∃ used free,Filled .erased used free (journalAfter page boots).records) ∧
      ∃ k,k ≤ boots.length ∧ newestSession (journalAfter page boots) = succSession^[k] (newestSession page) := by
  induction boots generalizing page with
  | nil => exact ⟨filled,0,Nat.le_refl 0,rfl⟩
  | cons boot boots ih =>
      obtain ⟨used,free,shape⟩ := filled
      have first := boot_advanced shape (sheltered [] boot boots rfl)
      have later : ShelteredBoots (nextSession page boot).1 boots := by
        intro earlier next rest split
        exact sheltered (boot :: earlier) next rest (by rw [split,List.cons_append])
      obtain ⟨shaped,k,bound,newest⟩ := ih first.filled later
      refine ⟨shaped,?_⟩
      rcases first.newest with same | advanced
      · refine ⟨k,Nat.le_succ_of_le bound,?_⟩
        rw [← same]
        exact newest
      · refine ⟨k + 1,Nat.succ_le_succ bound,?_⟩
        rw [Function.iterate_succ_apply,← advanced]
        exact newest

theorem sheltered_append (sheltered : ShelteredBoots page (front ++ back)) :
    ShelteredBoots page front ∧ ShelteredBoots (journalAfter page front) back := by
  constructor
  · intro earlier boot later split
    exact sheltered earlier boot (later ++ back) (by rw [split,List.append_assoc,List.cons_append])
  · intro earlier boot later split
    have whole := sheltered (front ++ earlier) boot later (by rw [split,List.append_assoc])
    rw [journalAfter,List.foldl_append] at whole
    exact whole

def sessionAt (boots : List Boot) (i : Nat) : Option UInt16 :=
  boots[i]?.bind fun boot => booted (journalAfter .blank (boots.take i)) boot

theorem at_boot (sheltered : ShelteredBoots .blank boots) (got : sessionAt boots i = some session) :
    i < boots.length ∧ session = succSession (newestSession (journalAfter .blank (boots.take i))) ∧
      newestSession (journalAfter .blank (boots.take (i + 1))) = session := by
  obtain ⟨boot,present,returned⟩ := Option.bind_eq_some_iff.mp got
  obtain ⟨inside,here⟩ := List.getElem?_eq_some_iff.mp present
  have split : boots = boots.take i ++ boot :: boots.drop (i + 1) := by
    rw [← here,List.getElem_cons_drop,List.take_append_drop]
  have front : boots.take (i + 1) = boots.take i ++ [boot] := by
    rw [List.take_add_one,present]
    rfl
  have early : ShelteredBoots .blank (boots.take i) := by
    rw [split] at sheltered
    exact (sheltered_append sheltered).1
  obtain ⟨⟨used,free,filled⟩,_⟩ := boots_advanced ⟨_,_,blank_filled⟩ early
  have advanced := boot_advanced filled (sheltered _ boot _ split)
  obtain ⟨same,last⟩ := advanced.returned session (booted_exact.mp returned)
  refine ⟨inside,same,?_⟩
  rw [front,journalAfter,List.foldl_append]
  exact last

theorem sessions_advance (boots : List Boot) (sheltered : ShelteredBoots .blank boots) (i : Nat) (session : UInt16)
    (got : sessionAt boots i = some session) :
    session ≠ 0 ∧ ∀ j previous,j < i → sessionAt boots j = some previous →
      ∃ k,1 ≤ k ∧ k ≤ i - j ∧ session = succSession^[k] previous := by
  obtain ⟨inside,next,_⟩ := at_boot sheltered got
  constructor
  · rw [next]
    exact succSession_nonzero _
  · intro j previous before gotBefore
    obtain ⟨_,_,last⟩ := at_boot sheltered gotBefore
    have between : boots.take i = boots.take (j + 1) ++ (boots.take i).drop (j + 1) := by
      have cut : (boots.take i).take (j + 1) = boots.take (j + 1) := by
        rw [List.take_take,Nat.min_eq_left before]
      rw [← cut,List.take_append_drop]
    have count : ((boots.take i).drop (j + 1)).length = i - (j + 1) := by
      rw [List.length_drop,List.length_take]
      omega
    have rest : boots = boots.take (j + 1) ++ ((boots.take i).drop (j + 1) ++ boots.drop i) := by
      rw [← List.append_assoc,← between,List.take_append_drop]
    rw [rest] at sheltered
    obtain ⟨early,late⟩ := sheltered_append sheltered
    obtain ⟨filled,_⟩ := boots_advanced ⟨_,_,blank_filled⟩ early
    obtain ⟨_,k,bound,newest⟩ := boots_advanced filled (sheltered_append late).1
    have run : journalAfter .blank (boots.take i) =
        journalAfter (journalAfter .blank (boots.take (j + 1))) ((boots.take i).drop (j + 1)) := by
      conv_lhs => rw [between,journalAfter,List.foldl_append]
      rfl
    refine ⟨k + 1,by omega,by omega,?_⟩
    rw [next,run,newest,last,Function.iterate_succ_apply']

theorem sheltered_cons (first : Sheltered page boot) (rest : ShelteredBoots (nextSession page boot).1 boots) :
    ShelteredBoots page (boot :: boots) := by
  intro earlier next later split
  cases earlier with
  | nil =>
      cases split
      exact first
  | cons _ earlier =>
      cases split
      exact rest earlier next later rfl

def faultyBoots : List Boot := [{},{complement := {ok := false}},{lost := some 1},{}]

theorem faultyBoots_sheltered : ShelteredBoots .blank faultyBoots := by
  refine sheltered_cons ?_ (sheltered_cons ?_ (sheltered_cons ?_ (sheltered_cons ?_ ?_)))
  · exact fun full => absurd full (by decide +kernel)
  · exact fun full => absurd full (by decide +kernel)
  · exact fun full => absurd full (by decide +kernel)
  · exact fun full => absurd full (by decide +kernel)
  · intro earlier boot later split
    cases earlier <;> cases split

theorem sessions_advanced_faulty :
    sessionAt faultyBoots 0 = some 1 ∧ sessionAt faultyBoots 3 = some 3 ∧
      ∃ k,1 ≤ k ∧ k ≤ 3 - 0 ∧ (3 : UInt16) = succSession^[k] 1 := by
  have first : sessionAt faultyBoots 0 = some 1 := by decide +kernel
  have last : sessionAt faultyBoots 3 = some 3 := by decide +kernel
  exact ⟨first,last,(sessions_advance faultyBoots faultyBoots_sheltered 3 3 last).2 0 1 (by decide) first⟩

end RobotControlRuntime.Firmware
