-- How the program ends. Arguments that it does not accept end it whatever the
-- folder holds. With arguments that it accepts, the script alone decides about
-- the exit code and the output: findings are no failure, and the log goes
-- elsewhere.
import Mathlib.Data.String.Basic
import ScriptBalance.Program
import ScriptBalance.Proofs.Runs

namespace ScriptBalance

/-! ## The script in its folder -/

/-- A text without the separator is its only part. -/
theorem splitOnAux_of_not_mem {sep : Char} (read rest : List Char) (h : sep ∉ rest) :
    (String.ofList (read ++ rest)).splitOnAux (String.ofList [sep]) 0 ⟨String.utf8Len read⟩ 0 []
      = [String.ofList (read ++ rest)] := by
  induction rest generalizing read with
  | nil =>
    have hend := (String.atEnd_of_valid read []).mpr rfl
    have hall := String.extract_of_valid [] read []
    rw [String.splitOnAux, if_pos hend]
    simpa using hall
  | cons c rest ih =>
    have hend := mt (String.atEnd_of_valid read (c :: rest)).mp nofun
    have hget := String.get_of_valid read (c :: rest)
    have hsep : String.Pos.Raw.get (String.ofList [sep]) 0 = sep := String.get_of_valid [] [sep]
    have hne : ¬ (c == sep) = true := by simpa using (List.ne_of_not_mem_cons h).symm
    have hplace : (⟨String.utf8Len read⟩ : String.Pos.Raw).unoffsetBy 0
        = ⟨String.utf8Len read⟩ := rfl
    have hread := ih (read ++ [c]) (List.not_mem_of_not_mem_cons h)
    rw [String.splitOnAux, if_neg hend, hget, hsep, List.headD_cons, if_neg hne, hplace,
      String.next_of_valid]
    simpa using hread

namespace Folder

theorem parts_of_not_mem {name : String} (h : '/' ∉ name.toList) : parts name = [name] := by
  have hsplit := splitOnAux_of_not_mem [] name.toList h
  rw [List.nil_append, String.ofList_toList] at hsplit
  exact hsplit

/-- What the system says about what stands at a path. -/
def answer : Option Node → Except ReadError ByteArray
  | some (.file bytes) => .ok bytes
  | some .directory => .error .isADirectory
  | none => .error .notFound

/-- The script has one name in the folder, and nothing else in it is looked at. -/
theorem read_script (folder : Folder) :
    folder.read "docker-start.ps1" = answer (folder.find? ["docker-start.ps1"]) := by
  have hparts : parts "docker-start.ps1" = ["docker-start.ps1"] := parts_of_not_mem (by decide)
  have hwalk : folder.walk "docker-start.ps1" = folder.step (.directory []) "docker-start.ps1" := by
    unfold walk
    rw [hparts, if_neg (by decide), if_neg (by decide), if_neg (by decide), List.foldlM_cons]
    exact bind_pure _
  have hstep : folder.step (.directory []) "docker-start.ps1"
      = match folder.find? ["docker-start.ps1"] with
        | some (.file bytes) => .ok (.file bytes)
        | some .directory => .ok (.directory ["docker-start.ps1"])
        | none => .error .notFound := by
    unfold step
    dsimp only
    rw [if_neg (by decide), if_neg (by decide), if_neg (by decide)]
    rfl
  unfold read
  rw [hwalk, hstep]
  rcases folder.find? ["docker-start.ps1"] with _ | bytes | _ <;> rfl

end Folder

/-! ## One run of the program -/

theorem readText_eq_ok_iff {read : Reader} {path text : String} :
    readText read path = .ok text ↔ read path = .ok text.toUTF8 := by
  unfold readText
  rcases read path with err | bytes
  · simp
  · rw [Except.ok.injEq, ← fromUTF8?_eq_some_iff]
    dsimp only
    cases String.fromUTF8? bytes <;> simp

/-- A run looks at its script and at no other file. -/
theorem run_congr {read read' : Reader} {path : String} (h : read' path = read path) :
    run read' path = run read path := by
  unfold run loadSource readText
  rw [h]

/-- No arguments change which script is checked. -/
theorem script_of_ofArguments {args : List String} {config : Config}
    (h : Config.ofArguments args = .ok config) : config.script = "docker-start.ps1" := by
  unfold Config.ofArguments Config.ofLevelName at h
  split at h
  · cases h
  · cases h
    rfl
  · split at h
    · cases h
      rfl
    · cases h

/-- What the program leaves but its log: its exit code and its output. -/
def Outcome.shown (o : Outcome) : Nat × ByteArray := (o.exitCode, o.stdout)

/-- How the program ends with arguments that it does not accept. -/
theorem Outcome.shown_ofConfigError (err : ConfigError) :
    (Outcome.ofConfigError err).shown =
      match err with
      | .stop .help => (0, helpText.toUTF8)
      | .stop .version => (0, versionText.toUTF8)
      | .stop _ => (2, .empty)
      | .invalidLevel _ => (1, .empty) := by
  rcases err with s | name
  · cases s <;> rfl
  · rfl

theorem program_of_error {args : List String} {err : ConfigError}
    (h : Config.ofArguments args = .error err) (logFilter : Option String) (read : Reader) :
    program args logFilter read = .ofConfigError err := by
  unfold program
  rw [h]

section

variable {args : List String} {config : Config} (h : Config.ofArguments args = .ok config)
include h

/-- With arguments that the program accepts, neither they nor the filter of the log
say how the program ends. -/
theorem shown_of_ok (logFilter : Option String) (read : Reader) :
    (program args logFilter read).shown =
      match run read "docker-start.ps1" (runStart none none) with
      | .ok _ session => (0, session.sink.channel.written)
      | .error _ session => (1, session.sink.channel.written) := by
  have hstart : ({ sink := {} } : Session Report) = runStart none none := rfl
  unfold program
  rw [h]
  show (Outcome.ofRun read config.script _ _).shown = _
  rw [script_of_ofArguments h, Outcome.ofRun, hstart]
  cases run read "docker-start.ps1" (runStart none none) <;> rfl

theorem shown_of_text (logFilter : Option String) {read : Reader} {text : String}
    (htext : read "docker-start.ps1" = .ok text.toUTF8) :
    ∃ summary last, check Report.take (.ofText text) { sink := {} } = .ok summary last ∧
      (program args logFilter read).shown = (0, last.sink.channel.written) := by
  -- a channel with no limit takes every entry
  have hall : TakesAll none none (Source.ofText text).entries := ⟨trivial, nofun⟩
  obtain ⟨summary, session, hrun⟩ := completes (readText_eq_ok_iff.mpr htext) hall
  obtain ⟨last, hcheck, -⟩ := check_of_forM ({ sink := {} } : Session Report)
    (Report.forM_take_ok_iff.mpr ⟨hall, rfl⟩)
  refine ⟨_, last, hcheck, ?_⟩
  have hwritten := hrun.written
  rw [reportOn, hcheck, stateOf] at hwritten
  rw [shown_of_ok h, hrun.result, ← hwritten]

theorem shown_of_no_text (logFilter : Option String) {read : Reader}
    (hnone : ∀ text : String, read "docker-start.ps1" ≠ .ok text.toUTF8) :
    (program args logFilter read).shown = (1, .empty) := by
  cases htext : readText read "docker-start.ps1" with
  | ok text => exact absurd (readText_eq_ok_iff.mp htext) (hnone text)
  | error cause =>
    rw [shown_of_ok h, run_of_error htext]
    rfl

theorem shown_congr {args' : List String} {config' : Config}
    (h' : Config.ofArguments args' = .ok config') (logFilter logFilter' : Option String)
    {read read' : Reader} (hread : read' "docker-start.ps1" = read "docker-start.ps1") :
    (program args' logFilter' read').shown = (program args logFilter read).shown := by
  rw [shown_of_ok h, shown_of_ok h', run_congr hread]

end

/-! ## The laws -/

/-- The script alone decides how the program ends. If the program does not accept its
arguments, then neither the folder nor the filter of the log counts: it shows the
help or the version, or it fails with no output. If it does, then it succeeds
exactly if the script is UTF-8 text, whatever there is to find in it, and its output
is the report on the text. If not, it fails with no output. Another level, another
filter and other files in the folder change nothing about this. -/
theorem the_script_alone_decides_how_a_program_ends (args : List String)
    (logFilter : Option String) (read : Reader) :
    match Config.ofArguments args with
    | .error (.stop .help) => (program args logFilter read).shown = (0, helpText.toUTF8)
    | .error (.stop .version) => (program args logFilter read).shown = (0, versionText.toUTF8)
    | .error (.stop _) => (program args logFilter read).shown = (2, .empty)
    | .error (.invalidLevel _) => (program args logFilter read).shown = (1, .empty)
    | .ok _ =>
      ((program args logFilter read).exitCode = 0 ↔
          ∃ text : String, read "docker-start.ps1" = .ok text.toUTF8) ∧
        (∀ text : String, read "docker-start.ps1" = .ok text.toUTF8 →
          ∃ summary last, check Report.take (.ofText text) { sink := {} } = .ok summary last ∧
            (program args logFilter read).shown = (0, last.sink.channel.written)) ∧
        ((∀ text : String, read "docker-start.ps1" ≠ .ok text.toUTF8) →
          (program args logFilter read).shown = (1, .empty)) ∧
        ∀ args' config' logFilter', Config.ofArguments args' = .ok config' →
          (∀ read' : Reader, read' "docker-start.ps1" = read "docker-start.ps1" →
            (program args' logFilter' read').shown = (program args logFilter read).shown) ∧
          ∀ folder folder' : Folder,
            folder'.find? ["docker-start.ps1"] = folder.find? ["docker-start.ps1"] →
            (program args' logFilter' folder'.read).shown
              = (program args logFilter folder.read).shown := by
  cases hargs : Config.ofArguments args with
  | error err =>
    have hshown := Outcome.shown_ofConfigError err
    rw [← program_of_error hargs logFilter read] at hshown
    rcases err with s | name
    · cases s <;> exact hshown
    · exact hshown
  | ok config =>
    refine ⟨⟨?_, ?_⟩, fun text htext => shown_of_text hargs logFilter htext,
      shown_of_no_text hargs logFilter, fun args' config' logFilter' hargs' => ⟨?_, ?_⟩⟩
    · intro hzero
      by_contra hnone
      have hshown := shown_of_no_text hargs logFilter (not_exists.mp hnone)
      have hone := (Prod.mk.inj hshown).1
      rw [hzero] at hone
      cases hone
    · rintro ⟨text, htext⟩
      obtain ⟨_, _, -, hshown⟩ := shown_of_text hargs logFilter htext
      exact (Prod.mk.inj hshown).1
    · intro read' hread
      exact shown_congr hargs hargs' logFilter logFilter' hread
    · intro folder folder' hscript
      apply shown_congr hargs hargs'
      rw [Folder.read_script, Folder.read_script, hscript]

/-- A finding is no failure. -/
example : (program [] none fun _ => .ok "\x7d".toUTF8).exitCode = 0 := by decide

end ScriptBalance
