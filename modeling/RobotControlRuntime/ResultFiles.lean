import RobotControlRuntime.Library.Disk
import RobotControlRuntime.ResultJson

-- Writing the two files of a result. What the system calls answer is an input.
namespace RobotControlRuntime.ResultWriter

abbrev Files := Disk (List UInt8) (List UInt8)

inductive WriteAnswer where
  | wrote (count : Nat)
  | interrupted
  | failed (message : List UInt8)
  deriving DecidableEq, Repr

-- A failing call answers with the text of its errno.
structure FileAnswers where
  staleRemoved : Bool := true
  openFailure : Option (List UInt8) := none
  writes : List WriteAnswer := []
  syncFailure : Option (List UInt8) := none
  renameFailure : Option (List UInt8) := none
  deriving DecidableEq, Repr

-- The write loop. Behind the listed answers the kernel takes all that is left, so
-- the lists stand for every sequence of answers with which the loop ends.
def writeContents (tmpPath contents : List UInt8) : List WriteAnswer → Nat → Files → Option (List UInt8) × Files
  | [],offset,disk => if offset < contents.length then (none,disk.put tmpPath contents) else (none,disk)
  | answer :: rest,offset,disk =>
    if offset < contents.length then
      match answer with
      | .interrupted => writeContents tmpPath contents rest offset disk
      | .failed message => (some message,disk)
      | .wrote count =>
        let offset := min (offset + count) contents.length
        writeContents tmpPath contents rest offset (disk.put tmpPath (contents.take offset))
    else (none,disk)

-- The temporary file is removed before the error is returned.
def abandon (disk : Files) (tmpPath : List UInt8) (label : String) (message : List UInt8) : CallResult Unit × Files :=
  (⟨(),.ioError,text label ++ message⟩,disk.remove tmpPath)

def tmpPath (finalPath : List UInt8) : List UInt8 := finalPath ++ text ".tmp"

def writeFileAtomically (answers : FileAnswers) (disk : Files) (finalPath contents : List UInt8) : CallResult Unit × Files :=
  if (disk.files finalPath).isSome then
    (⟨(),.busy,text "refuse to overwrite existing result file: " ++ finalPath⟩,disk)
  else
    let disk := if answers.staleRemoved then disk.remove (tmpPath finalPath) else disk
    match answers.openFailure with
    | some message => (⟨(),.ioError,text "open result tmp: " ++ message⟩,disk)
    | none =>
      -- O_EXCL
      if (disk.files (tmpPath finalPath)).isSome then (⟨(),.ioError,text "open result tmp: File exists"⟩,disk)
      else
        match writeContents (tmpPath finalPath) contents answers.writes 0 (disk.put (tmpPath finalPath) []) with
        | (some message,disk) => abandon disk (tmpPath finalPath) "write result tmp: " message
        | (none,disk) =>
          match answers.syncFailure with
          | some message => abandon disk (tmpPath finalPath) "fsync result tmp: " message
          | none =>
            match answers.renameFailure with
            | some message => abandon disk (tmpPath finalPath) "rename result file: " message
            | none => (⟨(),{}⟩,disk.rename (tmpPath finalPath) finalPath)

structure ResultArtifacts where
  jsonPath : List UInt8 := []
  csvPath : List UInt8 := []
  deriving DecidableEq, Repr

structure WriterAnswers where
  createFailure : Option (List UInt8) := none
  json : FileAnswers := {}
  csv : FileAnswers := {}
  deriving DecidableEq, Repr

def joinPath (directory name : List UInt8) : List UInt8 :=
  if directory.isEmpty || directory.getLast? == some 0x2f then directory ++ name else directory ++ 0x2f :: name

def jsonName (runId : List UInt8) : List UInt8 := runId ++ text ".json"

def csvName (runId : List UInt8) : List UInt8 := runId ++ text ".csv"

def jsonPath (result : TestResult R) (directory : List UInt8) : List UInt8 := joinPath directory (jsonName result.runId)

def csvPath (result : TestResult R) (directory : List UInt8) : List UInt8 := joinPath directory (csvName result.runId)

def write (appendNumber : R → List UInt8) (answers : WriterAnswers) (disk : Files) (result : TestResult R)
    (directory : List UInt8) : CallResult ResultArtifacts × Files :=
  let valid := validatePersistable result
  if !valid.ok then (⟨{},valid.error⟩,disk)
  else if directory.isEmpty then (⟨{},.invalidArgument,text "result directory must be non-empty"⟩,disk)
  else
    match answers.createFailure with
    | some message => (⟨{},.ioError,text "create result directory: " ++ message⟩,disk)
    | none =>
      match writeFileAtomically answers.json disk (jsonPath result directory) (serializeResultJson appendNumber result) with
      | (jsonWritten,disk) =>
        if !jsonWritten.ok then (⟨{},jsonWritten.error⟩,disk)
        else
          match writeFileAtomically answers.csv disk (csvPath result directory) (serializeResultCsv result) with
          | (csvWritten,disk) =>
            if !csvWritten.ok then (⟨{},csvWritten.error⟩,disk.remove (jsonPath result directory))
            else (⟨⟨jsonPath result directory,csvPath result directory⟩,{}⟩,disk)

section OneFile
open Disk

theorem tmpPath_other (finalPath : List UInt8) : finalPath ≠ tmpPath finalPath := by
  intro same
  have length := congrArg List.length same
  have suffix : (text ".tmp").length = 4 := rfl
  rw [tmpPath,List.length_append] at length
  omega

theorem writeContents_within (path contents : List UInt8) (answers : List WriteAnswer) (offset : Nat) (disk : Files) :
    Within [path] disk (writeContents path contents answers offset disk).2 := by
  induction answers generalizing offset disk with
  | nil =>
      unfold writeContents
      split
      · exact (Within.refl _ disk).set List.mem_cons_self _
      · exact .refl _ disk
  | cons answer rest ih =>
      unfold writeContents
      split
      · cases answer with
        | wrote count => exact ((Within.refl _ disk).set List.mem_cons_self _).trans (ih _ _)
        | interrupted => exact ih offset disk
        | failed message => exact .refl _ disk
      · exact .refl _ disk

theorem writeContents_complete (answers : List WriteAnswer) (held : disk.files path = some (contents.take offset))
    (through : (writeContents path contents answers offset disk).1 = none) :
    (writeContents path contents answers offset disk).2.files path = some contents := by
  induction answers generalizing offset disk with
  | nil =>
      unfold writeContents
      split
      · exact set_files path _
      · rw [held,List.take_of_length_le (by omega)]
  | cons answer rest ih =>
      unfold writeContents at through ⊢
      split at through
      · rename_i more
        rw [if_pos more]
        cases answer with
        | wrote count => exact ih (set_files path _) through
        | interrupted => exact ih held through
        | failed message => cases through
      · rename_i full
        rw [if_neg full,held,List.take_of_length_le (by omega)]

inductive FileWritten (before : Files) (finalPath contents : List UInt8) : CallResult Unit × Files → Prop where
  | done (absent : before.files finalPath = none) (complete : after.files finalPath = some contents)
      (within : Within [tmpPath finalPath,finalPath] before after) : FileWritten before finalPath contents (⟨(),{}⟩,after)
  | failed (refused : outcome.ok = false) (within : Within [tmpPath finalPath] before after) :
      FileWritten before finalPath contents (outcome,after)

theorem abandon_written (within : Within [tmpPath finalPath] before disk) (label : String) (message : List UInt8) :
    FileWritten before finalPath contents (abandon disk (tmpPath finalPath) label message) :=
  .failed rfl (within.set List.mem_cons_self none)

theorem writeFileAtomically_written (answers : FileAnswers) (before : Files) (finalPath contents : List UInt8) :
    FileWritten before finalPath contents (writeFileAtomically answers before finalPath contents) := by
  unfold writeFileAtomically
  split
  · exact .failed rfl (.refl _ before)
  rename_i missing
  have absent : before.files finalPath = none := by
    rwa [Bool.not_eq_true,Option.isSome_eq_false_iff,Option.isNone_iff_eq_none] at missing
  dsimp only
  have cleared : Within [tmpPath finalPath] before (if answers.staleRemoved then before.remove (tmpPath finalPath) else before) := by
    split
    · exact (Within.refl _ before).set List.mem_cons_self none
    · exact .refl _ before
  generalize (if answers.staleRemoved then before.remove (tmpPath finalPath) else before) = disk at cleared
  split
  · exact .failed rfl cleared
  split
  · exact .failed rfl cleared
  have opened : Within [tmpPath finalPath] before (disk.put (tmpPath finalPath) []) := cleared.set List.mem_cons_self _
  have held : (disk.put (tmpPath finalPath) []).files (tmpPath finalPath) = some (contents.take 0) := set_files _ _
  have loop := opened.trans (writeContents_within (tmpPath finalPath) contents answers.writes 0 _)
  have complete := writeContents_complete answers.writes held
  split
  · rename_i message written ran
    rw [ran] at loop
    exact abandon_written loop _ message
  rename_i written ran
  rw [ran] at loop complete
  split
  · exact abandon_written loop _ _
  split
  · exact abandon_written loop _ _
  · refine .done absent ?_ ?_
    · rw [rename_files (tmpPath_other finalPath)]
      exact complete rfl
    · have more : [tmpPath finalPath] ⊆ [tmpPath finalPath,finalPath] := by simp
      exact (loop.mono more).rename List.mem_cons_self (by simp)

structure Clean (answers : FileAnswers) : Prop where
  stale : answers.staleRemoved = true
  opened : answers.openFailure = none
  writes : ∀ message, .failed message ∉ answers.writes
  synced : answers.syncFailure = none
  renamed : answers.renameFailure = none

theorem writeContents_through (path contents : List UInt8) {answers : List WriteAnswer}
    (clean : ∀ message, .failed message ∉ answers) (offset : Nat) (disk : Files) :
    (writeContents path contents answers offset disk).1 = none := by
  induction answers generalizing offset disk with
  | nil =>
      unfold writeContents
      split <;> rfl
  | cons answer rest ih =>
      have later : ∀ message, .failed message ∉ rest := fun message listed => clean message (List.mem_cons_of_mem _ listed)
      unfold writeContents
      split
      · cases answer with
        | wrote count => exact ih later _ _
        | interrupted => exact ih later offset disk
        | failed message => exact absurd List.mem_cons_self (clean message)
      · rfl

theorem writeFileAtomically_succeeds (clean : Clean answers) (absent : before.files finalPath = none) (contents : List UInt8) :
    (writeFileAtomically answers before finalPath contents).1.ok = true := by
  unfold writeFileAtomically
  rw [absent,if_neg (by decide),clean.stale,clean.opened]
  dsimp only
  rw [if_pos rfl,remove,set_files,if_neg (by decide)]
  have through := writeContents_through (tmpPath finalPath) contents clean.writes 0
  split
  · rename_i message disk ran
    have stopped := through ((before.set (tmpPath finalPath) none).put (tmpPath finalPath) [])
    rw [ran] at stopped
    cases stopped
  · rw [clean.synced,clean.renamed]
    rfl

end OneFile

section Paths

theorem joinPath_append (directory name suffix : List UInt8) :
    joinPath directory name ++ suffix = joinPath directory (name ++ suffix) := by
  unfold joinPath
  split
  · rw [List.append_assoc]
  · rw [List.append_assoc,List.cons_append]

def artifactNames (runId : List UInt8) : List (List UInt8) :=
  [jsonName runId,csvName runId,jsonName runId ++ text ".tmp",csvName runId ++ text ".tmp"]

def isFileName (name : List UInt8) : Bool := !name.isEmpty && name != text "." && name != text ".." && !name.contains 0x2f

theorem safe_separator (safe : isSafeRunId runId = true) : 0x2f ∉ runId := by
  unfold isSafeRunId at safe
  split at safe
  · cases safe
  · intro listed
    cases List.all_eq_true.mp safe 0x2f listed

theorem suffixed_fileName (safe : isSafeRunId runId = true) (long : 2 < suffix.length) (plain : 0x2f ∉ suffix) :
    isFileName (runId ++ suffix) = true := by
  have length : 2 < (runId ++ suffix).length := by
    rw [List.length_append]
    omega
  have separator : 0x2f ∉ runId ++ suffix := by
    rw [List.mem_append,not_or]
    exact ⟨safe_separator safe,plain⟩
  simp only [isFileName,Bool.and_eq_true,Bool.not_eq_true',List.isEmpty_eq_false_iff,bne_iff_ne,List.contains_eq_mem,
    decide_eq_false_iff_not]
  refine ⟨⟨⟨?_,?_⟩,?_⟩,separator⟩
  all_goals
    intro same
    rw [same] at length
    exact absurd length (by decide)

theorem artifact_fileName (safe : isSafeRunId runId = true) (listed : name ∈ artifactNames runId) :
    isFileName name = true := by
  simp only [artifactNames,jsonName,csvName,List.append_assoc,List.mem_cons,List.not_mem_nil,or_false] at listed
  rcases listed with rfl | rfl | rfl | rfl
  all_goals exact suffixed_fileName safe (by decide) (by decide)

theorem joinPath_injective (directory : List UInt8) (same : joinPath directory name = joinPath directory other) : name = other := by
  unfold joinPath at same
  split at same
  · exact List.append_cancel_left same
  · exact (List.cons.inj (List.append_cancel_left same)).2

theorem artifact_distinct (directory runId : List UInt8) (different : first ≠ second) :
    joinPath directory (runId ++ first) ≠ joinPath directory (runId ++ second) :=
  fun same => different (List.append_cancel_left (joinPath_injective directory same))

theorem tmpPath_join (directory runId suffix : List UInt8) :
    tmpPath (joinPath directory (runId ++ suffix)) = joinPath directory (runId ++ (suffix ++ text ".tmp")) := by
  rw [tmpPath,joinPath_append,List.append_assoc]

end Paths

section TwoFiles
open Disk
variable {R : Type} (appendNumber : R → List UInt8) (result : TestResult R) (directory : List UInt8)

def artifactPaths : List (List UInt8) :=
  [jsonPath result directory,csvPath result directory,tmpPath (jsonPath result directory),tmpPath (csvPath result directory)]

theorem artifactPaths_names : artifactPaths result directory = (artifactNames result.runId).map (joinPath directory) := by
  simp only [artifactPaths,artifactNames,List.map_cons,List.map_nil,tmpPath,jsonPath,csvPath,joinPath_append]

theorem json_csv : jsonPath result directory ≠ csvPath result directory :=
  artifact_distinct directory result.runId (by decide)

theorem json_csvTmp : jsonPath result directory ≠ tmpPath (csvPath result directory) := by
  rw [csvPath,csvName,tmpPath_join]
  exact artifact_distinct directory result.runId (by decide)

theorem csv_jsonTmp : csvPath result directory ≠ tmpPath (jsonPath result directory) := by
  rw [jsonPath,jsonName,tmpPath_join]
  exact artifact_distinct directory result.runId (by decide)

inductive Written (before : Files) : CallResult ResultArtifacts × Files → Prop where
  | refused (refused : outcome.ok = false) : Written before (outcome,before)
  | failed (safe : isSafeRunId result.runId = true) (refused : outcome.ok = false)
      (kept : ∀ path, path ≠ tmpPath (jsonPath result directory) → path ≠ tmpPath (csvPath result directory) →
        after.files path = before.files path)
      (within : Within (artifactPaths result directory) before after) : Written before (outcome,after)
  | done (safe : isSafeRunId result.runId = true) (noJson : before.files (jsonPath result directory) = none)
      (noCsv : before.files (csvPath result directory) = none)
      (json : after.files (jsonPath result directory) = some (serializeResultJson appendNumber result))
      (csv : after.files (csvPath result directory) = some (serializeResultCsv result))
      (within : Within (artifactPaths result directory) before after) :
      Written before (⟨⟨jsonPath result directory,csvPath result directory⟩,{}⟩,after)

theorem write_written (answers : WriterAnswers) (before : Files) :
    Written appendNumber result directory before (write appendNumber answers before result directory) := by
  unfold write
  dsimp only
  split
  · rename_i invalid
    exact .refused (by rwa [Bool.not_eq_true'] at invalid)
  rename_i valid
  have safe : isSafeRunId result.runId = true := by
    rw [Bool.not_eq_true',Bool.not_eq_false] at valid
    exact ((validatePersistable_ok result).mp valid).1
  split
  · exact .refused rfl
  split
  · exact .refused rfl
  have jsonListed : jsonPath result directory ∈ artifactPaths result directory := List.mem_cons_self
  have first := writeFileAtomically_written answers.json before (jsonPath result directory)
    (serializeResultJson appendNumber result)
  generalize writeFileAtomically answers.json before (jsonPath result directory)
    (serializeResultJson appendNumber result) = ran at first
  cases first with
  | failed refused within =>
      dsimp only
      rw [refused]
      refine .failed safe refused (fun path other _ => within.files path ?_) (within.mono (by simp [artifactPaths]))
      rwa [List.mem_singleton]
  | @done middle noJson complete within =>
      have second := writeFileAtomically_written answers.csv middle (csvPath result directory) (serializeResultCsv result)
      dsimp only
      rw [if_neg (by decide)]
      generalize writeFileAtomically answers.csv middle (csvPath result directory) (serializeResultCsv result) = ran at second
      have all : Within (artifactPaths result directory) before middle := within.mono (by simp [artifactPaths])
      cases second with
      | @failed outcome after refused csvWithin =>
          dsimp only
          rw [refused]
          -- The JSON file that was just renamed into place is taken back.
          have both := (all.trans (csvWithin.mono (by simp [artifactPaths]))).set jsonListed none
          refine .failed safe refused (fun path jsonTmp csvTmp => ?_) both
          by_cases json : path = jsonPath result directory
          · subst path
            rw [noJson]
            exact set_files _ _
          · have unwritten : path ∉ [tmpPath (jsonPath result directory),jsonPath result directory] := by simp [jsonTmp,json]
            have kept := csvWithin.files path (by rwa [List.mem_singleton])
            exact (set_other json none).trans (kept.trans (within.files path unwritten))
      | done noCsv csv csvWithin =>
          have untouched : csvPath result directory ∉ [tmpPath (jsonPath result directory),jsonPath result directory] := by
            simp [csv_jsonTmp,(json_csv result directory).symm]
          have kept : jsonPath result directory ∉ [tmpPath (csvPath result directory),csvPath result directory] := by
            simp [json_csvTmp,json_csv]
          refine .done safe noJson ?_ ?_ csv (all.trans (csvWithin.mono (by simp [artifactPaths])))
          · rw [← within.files _ untouched]
            exact noCsv
          · rw [csvWithin.files _ kept]
            exact complete

theorem write_succeeds {answers : WriterAnswers} {before : Files} (valid : (validatePersistable result).ok = true)
    (named : directory ≠ []) (created : answers.createFailure = none) (json : Clean answers.json) (csv : Clean answers.csv)
    (noJson : before.files (jsonPath result directory) = none) (noCsv : before.files (csvPath result directory) = none) :
    (write appendNumber answers before result directory).1.ok = true := by
  have nonempty : ¬directory.isEmpty = true := by rwa [List.isEmpty_iff]
  have first := writeFileAtomically_succeeds json noJson (serializeResultJson appendNumber result)
  have written := writeFileAtomically_written answers.json before (jsonPath result directory)
    (serializeResultJson appendNumber result)
  unfold write
  dsimp only
  rw [valid,if_neg (by decide),if_neg nonempty,created]
  dsimp only
  generalize writeFileAtomically answers.json before (jsonPath result directory)
    (serializeResultJson appendNumber result) = ran at first written
  cases written with
  | failed refused => exact absurd (first.symm.trans refused) (by decide)
  | done _ _ within =>
      have untouched : csvPath result directory ∉ [tmpPath (jsonPath result directory),jsonPath result directory] := by
        simp [csv_jsonTmp,(json_csv result directory).symm]
      have absent := (within.files _ untouched).trans noCsv
      have second := writeFileAtomically_succeeds csv absent (serializeResultCsv result)
      dsimp only
      rw [if_neg (by decide),second]
      rfl

theorem within_confined (safe : isSafeRunId result.runId = true)
    (within : Within (artifactPaths result directory) ⟨before,[]⟩ after) (path : List UInt8)
    (touched : path ∈ after.touched ∨ after.files path ≠ before path) :
    ∃ name ∈ artifactNames result.runId, isFileName name = true ∧ path = joinPath directory name := by
  have listed : path ∈ artifactPaths result directory := by
    rcases touched with written | changed
    · exact (within.touched path written).resolve_left List.not_mem_nil
    · by_contra unlisted
      exact changed (within.files path unlisted)
  rw [artifactPaths_names] at listed
  obtain ⟨name,named,rfl⟩ := List.mem_map.mp listed
  exact ⟨name,named,artifact_fileName safe named,rfl⟩

theorem artifacts_all_or_nothing (answers : WriterAnswers) (before : List UInt8 → Option (List UInt8)) :
    let ended := write appendNumber answers ⟨before,[]⟩ result directory
    (ended.1.ok = true →
      ended.1.value = ⟨jsonPath result directory,csvPath result directory⟩ ∧
        before (jsonPath result directory) = none ∧ before (csvPath result directory) = none ∧
        ended.2.files (jsonPath result directory) = some (serializeResultJson appendNumber result) ∧
        ended.2.files (csvPath result directory) = some (serializeResultCsv result)) ∧
      (ended.1.ok = false → ∀ path, path ≠ tmpPath (jsonPath result directory) → path ≠ tmpPath (csvPath result directory) →
        ended.2.files path = before path) ∧
      ∀ path, path ∈ ended.2.touched ∨ ended.2.files path ≠ before path →
        ∃ name ∈ artifactNames result.runId, isFileName name = true ∧ path = joinPath directory name := by
  have written := write_written appendNumber result directory answers ⟨before,[]⟩
  dsimp only
  generalize write appendNumber answers ⟨before,[]⟩ result directory = ended at written
  cases written with
  | refused refused =>
      refine ⟨fun ok => absurd (ok.symm.trans refused) (by decide),fun _ _ _ _ => rfl,?_⟩
      rintro path (written | changed)
      · cases written
      · exact absurd rfl changed
  | failed safe refused kept within =>
      exact ⟨fun ok => absurd (ok.symm.trans refused) (by decide),fun _ => kept,within_confined result directory safe within⟩
  | done safe noJson noCsv json csv within =>
      refine ⟨fun _ => ⟨rfl,noJson,noCsv,json,csv⟩,?_,within_confined result directory safe within⟩
      intro refused
      cases refused

end TwoFiles

end RobotControlRuntime.ResultWriter
