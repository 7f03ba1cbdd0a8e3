import Mathlib.Data.List.Basic
import Mathlib.Data.List.TakeWhile
import OsdMigration.ApiServer.Answer
import OsdMigration.Proofs.Commands
import OsdMigration.Proofs.Json.Numeral

set_option autoImplicit false

/-! # The exit code of a command that failed

A session ends with a status. If that is no success, the exit code is in the message of the first
cause that is one, as a numeral with blanks around it (`exitCode_eq_ok`). A command whose session
ended so is a failure, whatever its outputs are, unless that numeral is one of zero
(`failure_heeded`): then it passes for a command that succeeded (`zero_passes_for_success`).
-/

namespace OsdMigration

/-! ## Numerals with blanks around them -/

namespace Text

/-- The numeral of a number: digits, and perhaps a sign in front of them. -/
inductive Signed : Int → List Char → Prop
  | bare {ds : List Char} {n : Nat} (ne : ds ≠ []) (denotes : Denotes ds n) : Signed n ds
  | plus {ds : List Char} {n : Nat} (ne : ds ≠ []) (denotes : Denotes ds n) : Signed n ('+' :: ds)
  | minus {ds : List Char} {n : Nat} (ne : ds ≠ []) (denotes : Denotes ds n) :
    Signed (-n) ('-' :: ds)

/-- A text is the numeral of a number and blanks around it. -/
def Numeral (i : Int) (m : String) : Prop :=
  ∃ front cs back, m.toList = front ++ (cs ++ back) ∧ (∀ c ∈ front, isBlank c = true) ∧
    (∀ c ∈ back, isBlank c = true) ∧ Signed i cs

theorem digits?_eq_some {cs : List Char} {n : Nat} :
    digits? cs = some n ↔ cs ≠ [] ∧ Denotes cs n := by
  cases cs with
  | nil => simp [digits?]
  | cons c cs => simp [digits?, digitsFrom?_eq_some]

/-- Digits do not begin with a sign. -/
theorem Denotes.ne_sign {c : Char} {cs : List Char} {n : Nat} (h : Denotes (c :: cs) n) :
    c ≠ '+' ∧ c ≠ '-' := by
  have hc := h.1 c List.mem_cons_self
  constructor <;>
    · rintro rfl
      exact absurd hc (by decide)

theorem integer?_eq_some {cs : List Char} {i : Int} : integer? cs = some i ↔ Signed i cs := by
  constructor
  · intro h
    unfold integer? at h
    split at h
    all_goals
      simp only [Option.map_eq_some_iff, Option.bind_eq_bind, Option.bind_eq_some_iff,
        Option.pure_def, Option.some.injEq] at h
      obtain ⟨_, ⟨n, hn, rfl⟩, rfl⟩ := h
    · obtain ⟨hne, hd⟩ := digits?_eq_some.1 hn
      exact .minus hne hd
    · unfold natural? at hn
      split at hn
      · obtain ⟨hne, hd⟩ := digits?_eq_some.1 hn
        exact .plus hne hd
      · obtain ⟨hne, hd⟩ := digits?_eq_some.1 hn
        exact .bare hne hd
  · rintro (⟨hne, hd⟩ | ⟨hne, hd⟩ | ⟨hne, hd⟩)
    · obtain ⟨c, cs, rfl⟩ := List.exists_cons_of_ne_nil hne
      obtain ⟨hplus, hminus⟩ := hd.ne_sign
      simp [integer?, natural?, hplus, hminus, digits?_eq_some.2 ⟨hne, hd⟩]
    · simp [integer?, natural?, digits?_eq_some.2 ⟨hne, hd⟩]
    · simp [integer?, digits?_eq_some.2 ⟨hne, hd⟩]

/-! ### Blanks -/

theorem not_blank_of_isDigit {c : Char} (h : c.isDigit = true) : isBlank c = false := by
  have hblank : ∀ n < 10, CodePointSet.parity (48 + n) false blanks.bounds = false := by decide
  have hc : 48 ≤ c.toNat ∧ c.toNat ≤ 57 := Char.isDigit_iff_toNat.1 h
  have hn : c.toNat = 48 + (c.toNat - 48) := by omega
  rw [isBlank, CodePointSet.contains, hn]
  exact hblank _ (by omega)

theorem dropBlanks_append {front cs : List Char} (hf : ∀ c ∈ front, isBlank c = true)
    (hcs : ∀ c ∈ cs.head?, isBlank c = false) : dropBlanks (front ++ cs) = cs := by
  rw [dropBlanks, List.dropWhile_append_of_pos hf]
  cases cs with
  | nil => rfl
  | cons c cs => simp [hcs c rfl]

/-- Blanks are dropped, up to the first character that is none. -/
theorem exists_dropBlanks (cs : List Char) :
    ∃ front, cs = front ++ dropBlanks cs ∧ ∀ c ∈ front, isBlank c = true :=
  ⟨cs.takeWhile isBlank, List.takeWhile_append_dropWhile.symm, fun _ => List.mem_takeWhile_imp⟩

theorem exists_trim (m : String) : ∃ front back, m.toList = front ++ ((trim m).toList ++ back) ∧
    (∀ c ∈ front, isBlank c = true) ∧ ∀ c ∈ back, isBlank c = true := by
  obtain ⟨front, hfront, hf⟩ := exists_dropBlanks m.toList
  obtain ⟨back, hback, hb⟩ := exists_dropBlanks (dropBlanks m.toList).reverse
  refine ⟨front, back.reverse, ?_, hf, fun c hc => hb c (List.mem_reverse.1 hc)⟩
  rw [trim, String.toList_ofList, ← List.reverse_append, ← hback, List.reverse_reverse]
  exact hfront

theorem toList_trim {m : String} {front cs back : List Char} (h : m.toList = front ++ (cs ++ back))
    (hf : ∀ c ∈ front, isBlank c = true) (hb : ∀ c ∈ back, isBlank c = true) (hne : cs ≠ [])
    (hhead : ∀ c ∈ cs.head?, isBlank c = false) (hlast : ∀ c ∈ cs.getLast?, isBlank c = false) :
    (trim m).toList = cs := by
  have hfront : dropBlanks m.toList = cs ++ back := by
    rw [h]
    refine dropBlanks_append hf fun c hc => hhead c ?_
    rwa [List.head?_append_of_ne_nil _ hne] at hc
  have hback : dropBlanks (cs ++ back).reverse = cs.reverse := by
    rw [List.reverse_append]
    refine dropBlanks_append (fun c hc => hb c (List.mem_reverse.1 hc)) fun c hc => hlast c ?_
    rwa [List.head?_reverse] at hc
  rw [trim, String.toList_ofList, hfront, hback, List.reverse_reverse]

/-- A numeral has no blanks at its ends. -/
theorem Signed.ends {i : Int} {cs : List Char} (h : Signed i cs) : cs ≠ [] ∧
    (∀ c ∈ cs.head?, isBlank c = false) ∧ ∀ c ∈ cs.getLast?, isBlank c = false := by
  have hplus : isBlank '+' = false := by decide
  have hminus : isBlank '-' = false := by decide
  have hdigits : ∀ {ds : List Char} {n : Nat}, Denotes ds n → ∀ c ∈ ds, isBlank c = false :=
    fun hd c hc => not_blank_of_isDigit (hd.1 c hc)
  have hall : cs ≠ [] ∧ ∀ c ∈ cs, isBlank c = false := by
    cases h with
    | bare hne hd => exact ⟨hne, hdigits hd⟩
    | plus hne hd => exact ⟨nofun, List.forall_mem_cons.2 ⟨hplus, hdigits hd⟩⟩
    | minus hne hd => exact ⟨nofun, List.forall_mem_cons.2 ⟨hminus, hdigits hd⟩⟩
  exact ⟨hall.1, fun c hc => hall.2 c (List.mem_of_mem_head? hc),
    fun c hc => hall.2 c (List.mem_of_mem_getLast? hc)⟩

/-- The signed 32-bit range. -/
def InRange (i : Int) : Prop := -2147483648 ≤ i ∧ i ≤ 2147483647

/-- What is read of a text without the blanks around it. -/
theorem int32?_trim {m : String} {i : Int} :
    int32? (trim m) = some i ↔ Numeral i m ∧ InRange i := by
  have hread : int32? (trim m) = some i ↔ integer? (trim m).toList = some i ∧ InRange i := by
    rw [int32?, Option.bind_eq_some_iff]
    constructor
    · rintro ⟨j, hj, h⟩
      split at h
      · cases h
        exact ⟨hj, ‹_›⟩
      · cases h
    · rintro ⟨hj, h⟩
      exact ⟨i, hj, if_pos h⟩
  rw [hread, integer?_eq_some]
  refine and_congr_left fun _ => ⟨fun h => ?_, ?_⟩
  · obtain ⟨front, back, hm, hf, hb⟩ := exists_trim m
    exact ⟨front, _, back, hm, hf, hb, h⟩
  · rintro ⟨front, cs, back, hm, hf, hb, h⟩
    obtain ⟨hne, hhead, hlast⟩ := h.ends
    rwa [toList_trim hm hf hb hne hhead hlast]

/-- A number in decimal is a numeral of it. -/
theorem numeral_toString (i : Int) : Numeral i (toString i) := by
  have hdigits : ∀ n, Nat.toDigits 10 n ≠ [] ∧ Denotes (Nat.toDigits 10 n) n := fun n =>
    ⟨Nat.toDigits_ne_nil, digitsFrom?_eq_some.1 (Json.Token.digitsFrom?_toDigits n)⟩
  refine ⟨[], (toString i).toList, [], by simp, nofun, nofun, ?_⟩
  cases i with
  | ofNat n =>
      rw [Int.ofNat_eq_natCast, Json.Token.toList_toString_ofNat]
      exact .bare (hdigits n).1 (hdigits n).2
  | negSucc n =>
      rw [Json.Token.toList_toString_negSucc]
      exact .minus (hdigits (n + 1)).1 (hdigits (n + 1)).2

end Text

namespace ApiServer

open Cluster (CommandOutput Request)
open Job (Course)

/-! ## The exit code in a status -/

/-- The first cause of a status that is an exit code has this message. -/
def EndStatus.Gives (s : EndStatus) (m : String) : Prop :=
  ∃ before after, s.causes = some (before ++ ⟨some "ExitCode", some m⟩ :: after) ∧
    ∀ c ∈ before, c.reason ≠ some "ExitCode"

/-- A status gives the exit code zero. -/
def EndStatus.GivesZero (s : EndStatus) : Prop :=
  s.reason = some "NonZeroExitCode" ∧ ∃ m, s.Gives m ∧ Text.Numeral 0 m

theorem EndStatus.gives_iff {s : EndStatus} {m : String} : s.Gives m ↔
    ((s.causes.getD []).find? fun c => c.reason = some "ExitCode").bind EndCause.message =
      some m := by
  rw [Option.bind_eq_some_iff]
  constructor
  · rintro ⟨before, after, hcauses, hbefore⟩
    refine ⟨⟨some "ExitCode", some m⟩, ?_, rfl⟩
    rw [hcauses, Option.getD_some, List.find?_eq_some_iff_append]
    exact ⟨by simp, before, after, rfl, by simpa using hbefore⟩
  · rintro ⟨⟨reason, message⟩, hfind, hm⟩
    obtain ⟨hreason, before, after, hsplit, hbefore⟩ := List.find?_eq_some_iff_append.1 hfind
    obtain rfl : reason = some "ExitCode" := by simpa using hreason
    obtain rfl : message = some m := hm
    refine ⟨before, after, ?_, by simpa using hbefore⟩
    cases hcauses : s.causes with
    | none => simp [hcauses] at hsplit
    | some causes => simpa [hcauses] using hsplit

/-- What is read as the exit code of a command that did not succeed. -/
theorem exitCode_eq_ok {s : EndStatus} (failed : s.status ≠ some "Success") {code : Int} :
    s.exitCode = .ok code ↔ s.reason = some "NonZeroExitCode" ∧
      ∃ m, s.Gives m ∧ Text.Numeral code m ∧ Text.InRange code := by
  have hread : s.exitCode = .ok code ↔ s.reason = some "NonZeroExitCode" ∧
      ∃ m, s.Gives m ∧ Text.int32? (Text.trim m) = some code := by
    simp only [EndStatus.gives_iff, ← Option.bind_eq_some_iff]
    rw [EndStatus.exitCode, if_neg failed]
    split
    · rename_i hreason
      simp only
      split
      · rename_i hcode
        simp [hreason, hcode]
      · rename_i hcode
        simp [hcode]
    · rename_i hreason
      simp [hreason]
  simp only [hread, Text.int32?_trim]

theorem givesZero_iff {s : EndStatus} (failed : s.status ≠ some "Success") :
    s.GivesZero ↔ s.exitCode = .ok 0 := by
  have hrange : Text.InRange 0 := ⟨by decide, by decide⟩
  rw [exitCode_eq_ok failed]
  simp only [EndStatus.GivesZero, hrange, and_true]

/-! ## The command of a session -/

/-- A session ended with a status. -/
def EndsWith (frames : List Frame) (s : EndStatus) : Prop :=
  ∃ bytes, (receive frames).status = some bytes ∧ readStatus bytes = .ok s

/-- The outputs of a session are these texts. -/
def Printed (frames : List Frame) (stdout stderr : String) : Prop :=
  Text.Utf8.decode (receive frames).stdout = .ok stdout ∧
    Text.Utf8.decode (receive frames).stderr = .ok stderr

theorem bind_eq_ok {ε α β : Type} {x : Except ε α} {f : α → Except ε β} {b : β} :
    x >>= f = .ok b ↔ ∃ a, x = .ok a ∧ f a = .ok b := by
  cases x with
  | error e => exact iff_of_false nofun (by rintro ⟨_, h, _⟩; cases h)
  | ok a => exact ⟨fun h => ⟨a, rfl, h⟩, by rintro ⟨_, ⟨⟩, h⟩; exact h⟩

theorem mapError_eq_ok {ε ε' α : Type} {x : Except ε α} {f : ε → ε'} {a : α} :
    x.mapError f = .ok a ↔ x = .ok a := by
  cases x <;> simp [Except.mapError]

/-- The output of the command of a session that ended with a status. -/
theorem outputOf_eq_ok {frames : List Frame} {s : EndStatus} (ends : EndsWith frames s)
    {output : CommandOutput} : outputOf frames = .ok output ↔
      Printed frames output.stdout output.stderr ∧ s.exitCode = .ok output.code := by
  obtain ⟨bytes, hbytes, hread⟩ := ends
  have hstatus : (receive frames).status.mapM readStatus = .ok (some s) := by
    rw [hbytes]
    simp [hread, Except.map, Functor.map]
  obtain ⟨code, stdout, stderr⟩ := output
  simp only [outputOf, bind_eq_ok, mapError_eq_ok, hstatus, Printed]
  constructor
  · rintro ⟨_, hout, _, herr, _, ⟨⟩, _, hcode, ⟨⟩⟩
    exact ⟨⟨hout, herr⟩, hcode⟩
  · rintro ⟨⟨hout, herr⟩, hcode⟩
    exact ⟨_, hout, _, herr, _, rfl, _, hcode, rfl⟩

/-! ## What becomes of it -/

/-- The command of a run was answered by a session. -/
def AnsweredBy (frames : List Frame) (seen : List Event) : Prop :=
  ∃ u space pod container argv, .answered u (.exec space pod container argv)
    (answer (.exec space pod container argv) (.session frames)) ∈ seen

/-- A run whose command was answered by a session ends with the output of the session, if its exit
code is zero, and with a failure otherwise. -/
theorem course_run_answeredBy {settings : Settings} {argv : List String} {frames : List Frame}
    {seen : List Event} {o : Option (Attempt CommandOutput)}
    (h : Course (Toolbox.run settings argv) seen o) (hs : AnsweredBy frames seen) :
    (∃ output, outputOf frames = .ok output ∧ output.code = 0 ∧ o = some (.ok output)) ∨
      (∀ output, outputOf frames = .ok output → output.code ≠ 0) ∧ ∃ f, o = some (.error f) := by
  obtain ⟨u, space, pod, container, argv', hm⟩ := hs
  have ho := course_run_answered h hm
  rw [answer, commandOutputOf] at ho
  cases hout : outputOf frames with
  | error fault =>
      rw [hout] at ho
      exact .inr ⟨nofun, _, ho⟩
  | ok output =>
      rw [hout] at ho
      by_cases hcode : output.code = 0
      · exact .inl ⟨output, rfl, hcode, ho.trans (congrArg some (if_pos hcode))⟩
      · refine .inr ⟨?_, _, ho.trans (congrArg some (if_neg hcode))⟩
        rintro _ ⟨⟩
        exact hcode

/-- What becomes of a command whose session ended with a status that is no success. -/
structure FailureHeeded (s : EndStatus) : Prop where
  /-- The exit code is the one that the first cause of its kind gives. -/
  code : ∀ code, s.exitCode = .ok code ↔ s.reason = some "NonZeroExitCode" ∧
    ∃ m, s.Gives m ∧ Text.Numeral code m ∧ Text.InRange code
  /-- So one in decimal is read as it is, whatever causes stand around it, -/
  decimal : s.reason = some "NonZeroExitCode" → ∀ code, Text.InRange code →
    s.Gives (toString code) → s.exitCode = .ok code
  /-- and none is zero unless a numeral of zero is given. -/
  zero : s.exitCode = .ok 0 ↔ s.GivesZero
  /-- Then the command fails, whatever was printed and wherever it was run. -/
  fails : ¬ s.GivesZero → ∀ frames, EndsWith frames s → ∀ settings argv seen o,
    Course (Toolbox.run settings argv) seen o → AnsweredBy frames seen → ∃ f, o = some (.error f)
  /-- A numeral of zero lets it pass. -/
  passes : s.GivesZero → ∀ frames stdout stderr, EndsWith frames s →
    Printed frames stdout stderr → ∀ settings argv seen o,
      Course (Toolbox.run settings argv) seen o → AnsweredBy frames seen →
        o = some (.ok ⟨0, stdout, stderr⟩)

/-- A command that failed is a failure, unless its status gives the exit code zero. -/
theorem failure_heeded (s : EndStatus) (failed : s.status ≠ some "Success") :
    FailureHeeded s := by
  constructor
  case code => exact fun code => exitCode_eq_ok failed
  case decimal =>
    intro hreason code hrange hgives
    exact (exitCode_eq_ok failed).2 ⟨hreason, _, hgives, Text.numeral_toString code, hrange⟩
  case zero => exact (givesZero_iff failed).symm
  case fails =>
    intro hzero frames hends settings argv seen o h hs
    rcases course_run_answeredBy h hs with ⟨output, hout, hcode, _⟩ | ⟨_, hf⟩
    · obtain ⟨_, hread⟩ := (outputOf_eq_ok hends).1 hout
      rw [hcode] at hread
      exact absurd ((givesZero_iff failed).2 hread) hzero
    · exact hf
  case passes =>
    intro hzero frames stdout stderr hends hprinted settings argv seen o h hs
    have hpassed : outputOf frames = .ok ⟨0, stdout, stderr⟩ :=
      (outputOf_eq_ok hends).2 ⟨hprinted, (givesZero_iff failed).1 hzero⟩
    rcases course_run_answeredBy h hs with ⟨output, hout, _, ho⟩ | ⟨hn, _⟩
    · cases hpassed.symm.trans hout
      exact ho
    · exact absurd rfl (hn _ hpassed)

/-- A status that says more than once why a command failed. -/
def severalCauses : EndStatus where
  status := some "Failure"
  reason := some "NonZeroExitCode"
  causes := some [⟨some "Signal", some "0"⟩, ⟨some "ExitCode", some "-16"⟩,
    ⟨some "ExitCode", some "0"⟩]

/-- The first exit code counts, and no other cause. -/
theorem severalCauses_heeded : severalCauses.status ≠ some "Success" ∧
    severalCauses.exitCode = .ok (-16) ∧ FailureHeeded severalCauses := by
  have failed : severalCauses.status ≠ some "Success" := by decide
  have gives : severalCauses.Gives (toString (-16 : Int)) :=
    ⟨[⟨some "Signal", some "0"⟩], [⟨some "ExitCode", some "0"⟩], rfl, by decide⟩
  have heeded := failure_heeded severalCauses failed
  exact ⟨failed, heeded.decimal rfl (-16) ⟨by decide, by decide⟩ gives, heeded⟩

/-! ## A failure that passes for success -/

/-- The status of a command that failed with the exit code zero, as it is sent. -/
def zeroBytes : List UInt8 :=
  ("\x7b\"status\":\"Failure\",\"reason\":\"NonZeroExitCode\",\"details\":\x7b\"causes\":"
    ++ "[\x7b\"reason\":\"ExitCode\",\"message\":\"0\"\x7d]\x7d\x7d").toUTF8.toList

/-- A session in which nothing was printed before. -/
def zeroSession : List Frame := [⟨3, zeroBytes⟩]

/-- The status that the session ends with. -/
def zeroStatus : EndStatus where
  status := some "Failure"
  reason := some "NonZeroExitCode"
  causes := some [⟨some "ExitCode", some "0"⟩]

/-- A cluster with one pod, in which every command ends like this session. -/
def failingCluster : Server Unit where
  receive _ _ s := (some 0, s)
  answer
    | _, .listPods _ _, s =>
      (some (.ok [{ spec := some { containers := [{ name := "toolbox" }] } }]), s)
    | _, .exec space pod container argv, s =>
      (some (answer (.exec space pod container argv) (.session zeroSession)), s)
    | _, _, s => (none, s)

/-- A command that failed is taken for one that succeeded, because its exit code is zero. -/
theorem zero_passes_for_success : EndsWith zeroSession zeroStatus ∧
    zeroStatus.status = some "Failure" ∧ zeroStatus.exitCode = .ok 0 ∧
    ((Toolbox.run Settings.standard ["ceph", "status"]).attempt.watch failingCluster none 0 ()).1 =
      .done (.ok ⟨0, "", ""⟩) := by
  refine ⟨⟨zeroBytes, ?_, ?_⟩, rfl, ?_, eq_done_of_result ?_⟩
  all_goals decide +kernel

end ApiServer

end OsdMigration
