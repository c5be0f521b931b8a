import Mathlib.Data.List.Forall2
import Mathlib.Tactic.Common
import NumberedProse.Proofs.Acquisition
import NumberedProse.Proofs.Verdicts
import NumberedProse.Translator.Script

/-!
# Compiling line by line

A compilation hands the lines to the translator one after the other.  The translator may keep a
state, fail, answer nothing, or throw the cancel switch while it answers, and each of these decides
where the compilation ends and what it reports.

**Moments.**  Between two jobs only the switch and the state of the translator matter.
`Moment.before` is the moment before the job of each line, if all jobs before it went well, and
`Moment.jobFault?` says how that job fails then.  The first job that fails ends the compilation.

**Requests.**  `Translator.recorded` keeps what the translator is asked and changes nothing else.
Each request carries what the analysis found out about its line (`Analysis.Asks`), though lines,
controls and uses are kept apart there.
-/

namespace NumberedProse

variable {σ : Type}

/-! ## One job -/

/-- **How an answer fails:** the translator gives up, or it returns no statement for an instruction
that is there. -/
def Request.fault? (request : Request) :
    Except TranslateError (List String) → Option TranslateError
  | .error error => some error
  | .ok statements =>
      if statements = [] ∧ request.line.text ≠ "" then
        some (.malformed "no statements returned")
      else none

lemma Analysis.accept_of_fault {request : Request} {answer : Except TranslateError (List String)}
    {error : TranslateError} (h : request.fault? answer = some error) :
    accept request answer = .error (.untranslated request.line.number error) := by
  cases answer with
  | error e =>
      cases h
      rfl
  | ok statements => simp_all [Request.fault?, accept]

lemma Analysis.accept_of_no_fault {request : Request}
    {answer : Except TranslateError (List String)} (h : request.fault? answer = none) :
    ∃ statements, answer = .ok statements ∧
      accept request answer = .ok (block request statements) := by
  cases answer with
  | error e => cases h
  | ok statements => simp_all [Request.fault?, accept]

/-- The translator that also keeps the requests it gets, oldest first. -/
def Translator.recorded (translator : Translator σ) : Translator (σ × List Request) :=
  fun (state, asked) request =>
    let reply := translator state request
    ⟨reply.answer, reply.cancels, reply.state, asked ++ [request]⟩

/-- **What a job finds when it starts.** -/
structure Moment (σ : Type) where
  switch : CancelSwitch
  state : σ

namespace Moment

variable (translator : Translator σ)

/-- The moment after the translator has answered. -/
def next (moment : Moment σ) (request : Request) : Moment σ :=
  let reply := translator moment.state request
  ⟨if reply.cancels then moment.switch.throw else moment.switch, reply.state⟩

/-- **How a job fails:** it is cancelled before it asks anything, or the answer fails. -/
def fault? (moment : Moment σ) (request : Request) : Option CompileError :=
  if moment.switch.isThrown then some .cancelled
  else (request.fault? (translator moment.state request).answer).map
    (.untranslated request.line.number)

/-- The moment after a job that has failed: a job that was cancelled has not asked. -/
def afterFault (moment : Moment σ) (request : Request) : Moment σ :=
  if moment.switch.isThrown then moment else moment.next translator request

/-- **The moment before the job of line `k`,** if all lines before it have been answered. -/
def before (start : Moment σ) (requests : List Request) (k : Nat) : Moment σ :=
  (requests.take k).foldl (next translator) start

/-- How the job of line `k` fails, if it is reached. -/
def jobFault? (start : Moment σ) (requests : List Request) (k : Nat) : Option CompileError :=
  requests[k]?.bind fun request => (start.before translator requests k).fault? translator request

lemma jobFault?_of_length_le {start : Moment σ} {requests : List Request} {k : Nat}
    (h : requests.length ≤ k) : start.jobFault? translator requests k = none := by
  simp [jobFault?, h]

@[simp] lemma before_zero (start : Moment σ) (requests : List Request) :
    start.before translator requests 0 = start := rfl

@[simp] lemma before_cons_succ (start : Moment σ) (request : Request) (rest : List Request)
    (k : Nat) : start.before translator (request :: rest) (k + 1) =
      (start.next translator request).before translator rest k := rfl

@[simp] lemma jobFault?_cons_zero (start : Moment σ) (request : Request) (rest : List Request) :
    start.jobFault? translator (request :: rest) 0 = start.fault? translator request := rfl

end Moment

namespace Analysis

variable {analysis : Analysis} {translator : Translator σ} {start : Moment σ} {line : Line}
  {control : LineControl}

lemma translateLine_of_thrown (h : start.switch.isThrown = true) :
    analysis.translateLine translator start.switch start.state line control =
      ⟨.error .cancelled, start.switch, start.state⟩ := by
  simp [translateLine, h]

lemma translateLine_of_open (h : start.switch.isThrown = false) :
    analysis.translateLine translator start.switch start.state line control =
      let request := analysis.request line control
      let after := start.next translator request
      ⟨accept request (translator start.state request).answer, after.switch, after.state⟩ := by
  simp only [translateLine, h, Bool.false_eq_true, if_false]
  rfl

/-- **A job that goes well:** the answer makes the block. -/
lemma translateLine_of_no_fault
    (h : start.fault? translator (analysis.request line control) = none) :
    ∃ statements,
      (translator start.state (analysis.request line control)).answer = .ok statements ∧
      analysis.translateLine translator start.switch start.state line control =
        let after := start.next translator (analysis.request line control)
        ⟨.ok (block (analysis.request line control) statements), after.switch, after.state⟩ := by
  rw [Moment.fault?] at h
  cases hthrown : start.switch.isThrown with
  | true => simp [hthrown] at h
  | false =>
      simp only [hthrown, Bool.false_eq_true, if_false, Option.map_eq_none_iff] at h
      obtain ⟨statements, hanswer, haccept⟩ := accept_of_no_fault h
      refine ⟨statements, hanswer, ?_⟩
      rw [translateLine_of_open hthrown]
      simp only [haccept]

/-- **A job that fails:** it leaves the moment as it is if it was cancelled. -/
lemma translateLine_of_fault {e : CompileError}
    (h : start.fault? translator (analysis.request line control) = some e) :
    analysis.translateLine translator start.switch start.state line control =
      let after := start.afterFault translator (analysis.request line control)
      ⟨.error e, after.switch, after.state⟩ := by
  rw [Moment.fault?] at h
  rw [Moment.afterFault]
  cases hthrown : start.switch.isThrown with
  | true =>
      simp only [hthrown, if_true, Option.some.injEq] at h
      rw [translateLine_of_thrown hthrown, ← h]
      rfl
  | false =>
      simp only [hthrown, Bool.false_eq_true, if_false, Option.map_eq_some_iff] at h
      obtain ⟨error, hfault, rfl⟩ := h
      rw [translateLine_of_open hthrown]
      simp only [accept_of_fault hfault]
      rfl

/-! ## All jobs -/

/-- The request that a job makes. -/
def requestOf (analysis : Analysis) (job : Line × LineControl) : Request :=
  analysis.request job.1 job.2

lemma requestOf_mk : analysis.requestOf (line, control) = analysis.request line control := rfl

/-- **The requests for all lines,** in program order. -/
def requests (analysis : Analysis) : List Request := analysis.jobs.map analysis.requestOf

/-- **The first job that fails ends the compilation.** -/
lemma translateLines_of_fault {jobs : List (Line × LineControl)} {k : Nat} {request : Request}
    {e : CompileError} (hrequest : (jobs.map analysis.requestOf)[k]? = some request)
    (hfault : start.jobFault? translator (jobs.map analysis.requestOf) k = some e)
    (hearlier : ∀ j < k, start.jobFault? translator (jobs.map analysis.requestOf) j = none) :
    analysis.translateLines translator start.switch start.state jobs =
      let last := start.before translator (jobs.map analysis.requestOf) k
      let after := last.afterFault translator request
      ⟨.error e, after.switch, after.state⟩ := by
  induction jobs generalizing start k with
  | nil => simp at hrequest
  | cons job rest ih =>
      obtain ⟨line, control⟩ := job
      simp only [List.map_cons, requestOf_mk] at hrequest hfault hearlier ⊢
      cases k with
      | zero =>
          cases hrequest
          rw [Moment.jobFault?_cons_zero] at hfault
          simp only [translateLines, translateLine_of_fault hfault]
          rfl
      | succ k =>
          have hfirst := hearlier 0 (Nat.succ_pos k)
          rw [Moment.jobFault?_cons_zero] at hfirst
          obtain ⟨statements, -, hjob⟩ := translateLine_of_no_fault hfirst
          have hrest := ih hrequest hfault fun j hj => hearlier (j + 1) (by omega)
          simp only [translateLines, hjob, hrest]
          rfl

/-- **If no job fails, every answer makes its block.** -/
lemma translateLines_of_no_fault {jobs : List (Line × LineControl)}
    (h : ∀ k, start.jobFault? translator (jobs.map analysis.requestOf) k = none) :
    ∃ blocks : List Block,
      (analysis.translateLines translator start.switch start.state jobs =
        let after := start.before translator (jobs.map analysis.requestOf) jobs.length
        ⟨.ok blocks, after.switch, after.state⟩) ∧
      ∀ k request, (jobs.map analysis.requestOf)[k]? = some request → ∃ statements,
        (translator (start.before translator (jobs.map analysis.requestOf) k).state
          request).answer = .ok statements ∧
        blocks[k]? = some (block request statements) := by
  induction jobs generalizing start with
  | nil => exact ⟨[], rfl, by simp⟩
  | cons job rest ih =>
      obtain ⟨line, control⟩ := job
      simp only [List.map_cons, requestOf_mk] at h ⊢
      have hfirst := h 0
      rw [Moment.jobFault?_cons_zero] at hfirst
      obtain ⟨statements, hanswer, hjob⟩ := translateLine_of_no_fault hfirst
      obtain ⟨blocks, hrest, hblocks⟩ := ih fun k => h (k + 1)
      refine ⟨block (analysis.request line control) statements :: blocks, ?_, ?_⟩
      · simp only [translateLines, hjob, hrest]
        rfl
      · intro k request hrequest
        cases k with
        | zero =>
            cases hrequest
            exact ⟨statements, hanswer, rfl⟩
        | succ k => exact hblocks k request hrequest

end Analysis

/-! ## What is asked -/

namespace Moment

/-- A moment with the requests made so far. -/
def keeping (moment : Moment σ) (asked : List Request) : Moment (σ × List Request) :=
  ⟨moment.switch, moment.state, asked⟩

@[simp] lemma keeping_state (moment : Moment σ) (asked : List Request) :
    (moment.keeping asked).state = (moment.state, asked) := rfl

lemma afterFault_recorded (translator : Translator σ) (moment : Moment σ) (asked : List Request)
    (request : Request) :
    (moment.keeping asked).afterFault translator.recorded request =
      (moment.afterFault translator request).keeping
        (if moment.switch.isThrown then asked else asked ++ [request]) := by
  obtain ⟨switch, state⟩ := moment
  cases switch <;> rfl

lemma before_recorded (translator : Translator σ) (start : Moment σ) (asked requests : List Request)
    (k : Nat) :
    (start.keeping asked).before translator.recorded requests k =
      (start.before translator requests k).keeping (asked ++ requests.take k) := by
  induction requests generalizing start asked k with
  | nil => simp [before]
  | cons request rest ih =>
      cases k with
      | zero => simp
      | succ k =>
          have hnext : (start.keeping asked).next translator.recorded request =
            (start.next translator request).keeping (asked ++ [request]) := rfl
          rw [before_cons_succ, before_cons_succ, hnext, ih]
          simp

lemma jobFault?_recorded (translator : Translator σ) (start : Moment σ)
    (asked requests : List Request) (k : Nat) :
    (start.keeping asked).jobFault? translator.recorded requests k =
      start.jobFault? translator requests k := by
  simp only [jobFault?, before_recorded]
  rfl

end Moment

namespace Analysis

variable {analysis : Analysis} {translator : Translator σ} {start : Moment σ}

lemma compile_of_fault {k : Nat} {request : Request} {e : CompileError}
    (hrequest : analysis.requests[k]? = some request)
    (hfault : start.jobFault? translator analysis.requests k = some e)
    (hearlier : ∀ j < k, start.jobFault? translator analysis.requests j = none) :
    analysis.compile translator start.switch start.state =
      let after := (start.before translator analysis.requests k).afterFault translator request
      ⟨.error e, after.switch, after.state⟩ := by
  simp only [compile, translateLines_of_fault hrequest hfault hearlier]
  rfl

/-- **What becomes of all blocks together:** a compilation, unless it has been cancelled by then. -/
def conclude (analysis : Analysis) (blocks : List Block) (switch : CancelSwitch) :
    Except CompileError Compilation :=
  if switch.isThrown then .error .cancelled
  else .ok ⟨⟨analysis.mode, analysis.context.entries, blocks.toArray⟩, analysis.warnings⟩

lemma compile_of_lines {switch switch' : CancelSwitch} {state state' : σ} {blocks : List Block}
    (h : analysis.translateLines translator switch state analysis.jobs =
      ⟨.ok blocks, switch', state'⟩) :
    analysis.compile translator switch state =
      ⟨analysis.conclude blocks switch', switch', state'⟩ := by
  rw [compile, h]
  cases switch' <;> rfl

lemma compile_of_no_fault (h : ∀ k, start.jobFault? translator analysis.requests k = none) :
    ∃ blocks : List Block,
      (analysis.compile translator start.switch start.state =
        let after := start.before translator analysis.requests analysis.requests.length
        ⟨analysis.conclude blocks after.switch, after.switch, after.state⟩) ∧
      ∀ k request, analysis.requests[k]? = some request → ∃ statements,
        (translator (start.before translator analysis.requests k).state request).answer =
          .ok statements ∧ blocks[k]? = some (block request statements) := by
  obtain ⟨blocks, hlines, hblocks⟩ := translateLines_of_no_fault h
  have hlength : analysis.requests.length = analysis.jobs.length := by simp [requests]
  rw [← hlength] at hlines
  exact ⟨blocks, compile_of_lines hlines, hblocks⟩

end Analysis

/-! ## What a request carries -/

/-- **What a line needs of a resource:** to acquire it, unless a line with a smaller number does. -/
def Program.useOf (program : Program) (table : ResourceTable) (line : Line) : ResourceUse :=
  match line.resource? table with
  | none => .unneeded
  | some key =>
      if ∃ m ∈ program.lines, m.number < line.number ∧ m.resource? table = some key then .again key
      else .first key

lemma ResourceContext.Tracks.use_eq {program : Program} {table : ResourceTable}
    {context : ResourceContext} (h : Tracks table program.lines.toList context) {line : Line}
    (hline : line ∈ program.lines) : context.use line.number = program.useOf table line := by
  have hserves := h.serves line (Array.mem_toList_iff.mpr hline)
  rw [Program.useOf]
  cases hresource : line.resource? table with
  | none => exact hserves.unneeded hresource
  | some key =>
      obtain ⟨e, he, rfl, huse⟩ := hserves.needed key hresource
      obtain ⟨first, hfirst, hplace, hkey, hleast⟩ := h.first e he
      simp only [huse]
      -- The entry of the resource names the least line that needs it.
      by_cases hnumber : line.number = e.firstLine
      · rw [if_pos hnumber, if_neg]
        rintro ⟨m, hm, hlt, hsame⟩
        rw [hnumber] at hlt
        have hle := hleast m (Array.mem_toList_iff.mpr hm) hsame
        exact UInt32.not_lt.mpr hle hlt
      · have hle := hleast line (Array.mem_toList_iff.mpr hline) hresource
        have hlt := UInt32.lt_of_le_of_ne hle fun heq => hnumber heq.symm
        rw [← hplace] at hlt
        rw [if_neg hnumber, if_pos ⟨first, Array.mem_toList_iff.mp hfirst, hlt, hkey⟩]

namespace Analysis

/-- **What the request of a line carries.** -/
structure Asks (analysis : Analysis) (table : ResourceTable) (line : Line) (request : Request) :
    Prop where
  about : request.line = line
  control : LineControl.ofLine line = .ok ⟨line.number, request.control, request.handler⟩
  use : request.use = analysis.program.useOf table line
  mode : request.context.mode = analysis.mode
  /-- The least larger number. -/
  successor : ∀ m, request.successor = some m ↔
    m ∈ analysis.program.numbers ∧ line.number < m ∧
      ∀ n ∈ analysis.program.numbers, line.number < n → m ≤ n

lemma ofLine_eq_ok {program : Program} {table : ResourceTable} {analysis : Analysis}
    (h : ofProgram program table = .ok analysis) {line : Line} (hline : line ∈ program.lines) :
    LineControl.ofLine line = .ok (LineControl.ofLineOrPlain line) := by
  have hverdicts : program.verdicts = [] := by
    by_contra hfaulty
    rw [ofProgram_eq table hfaulty] at h
    cases h
  have hfindings := program.findings_perm
  rw [hverdicts, List.perm_nil, List.append_eq_nil_iff, Program.controlErrors,
    List.filterMap_eq_nil_iff] at hfindings
  have hnone := hfindings.1 line (Array.mem_toList_iff.mpr hline)
  simp only [LineControl.error?, LineControl.ofLineOrPlain] at hnone ⊢
  split at hnone
  · next c hc => rw [hc]
  · cases hnone

/-- **Lines, controls and uses are aligned:** each request carries what belongs to its line. -/
lemma asks_requests {source : String} {table : ResourceTable} {analysis : Analysis}
    (h : ofSource source table = .ok analysis) :
    List.Forall₂ (analysis.Asks table) analysis.program.lines.toList analysis.requests := by
  have checked := checked_of_ofSource h
  have htracks := ResourceContext.tracks_ofProgram analysis.program table
  rw [← context_of_ofSource h] at htracks
  obtain ⟨program, hprogram⟩ := exists_ofProgram_of_ofSource h
  have hcontrol : ∀ line ∈ analysis.program.lines,
      LineControl.ofLine line = .ok (LineControl.ofLineOrPlain line) := by
    obtain ⟨-, hanalysis⟩ := ofProgram_ok hprogram
    intro line hline
    rw [hanalysis] at hline
    exact ofLine_eq_ok hprogram hline
  rw [requests, checked.jobs_eq, List.map_map, List.forall₂_map_right_iff, List.forall₂_same]
  intro line hline
  have hnumber : line.number ∈ analysis.program.numbers := List.mem_map_of_mem hline
  rw [Array.mem_toList_iff] at hline
  refine ⟨rfl, ?_, htracks.use_eq hline, rfl, fun m =>
    analysis.program.successor?_eq_some_iff hnumber⟩
  rw [hcontrol line hline, ← LineControl.number_ofLineOrPlain line]
  rfl

end Analysis

namespace Compilation

/-- **The requests that a compilation makes,** oldest first. -/
def asked (source : String) (table : ResourceTable) (translator : Translator σ)
    (start : Moment σ) : List Request :=
  (ofSource source table translator.recorded start.switch (start.state, [])).state.2

section

variable {source : String} {table : ResourceTable} {analysis : Analysis}
  (h : Analysis.ofSource source table = .ok analysis) (translator : Translator σ)
  (start : Moment σ)
include h

lemma ofSource_eq :
    ofSource source table translator start.switch start.state =
      analysis.compile translator start.switch start.state := by
  simp only [ofSource, h]

lemma asked_eq : asked source table translator start =
    (analysis.compile translator.recorded (start.keeping []).switch
      (start.keeping []).state).state.2 := by
  simp only [asked, ofSource, h]
  rfl

lemma asked_of_fault {k : Nat} {e : CompileError}
    (hfault : start.jobFault? translator analysis.requests k = some e)
    (hearlier : ∀ j < k, start.jobFault? translator analysis.requests j = none) :
    asked source table translator start = analysis.requests.take
      (if (start.before translator analysis.requests k).switch.isThrown then k else k + 1) := by
  obtain ⟨request, hrequest, -⟩ := Option.bind_eq_some_iff.mp hfault
  simp only [← start.jobFault?_recorded translator []] at hfault hearlier
  have hkept := Analysis.compile_of_fault hrequest hfault hearlier
  rw [asked_eq h, hkept]
  simp only [Moment.before_recorded, Moment.afterFault_recorded, Moment.keeping_state]
  split <;> simp [List.take_add_one, hrequest]

lemma asked_of_no_fault (hall : ∀ k, start.jobFault? translator analysis.requests k = none) :
    asked source table translator start = analysis.requests := by
  simp only [← start.jobFault?_recorded translator []] at hall
  obtain ⟨blocks, hkept, -⟩ := Analysis.compile_of_no_fault hall
  rw [asked_eq h, hkept]
  simp [Moment.before_recorded]

/-- **Lines are compiled one after the other,** up to the first job that fails.

The requests belong to the lines of the program, in order, and carry what belongs to the line.  If
job `k` is the first to fail, the compilation fails as it does, and the requests made are those of
the lines up to `k`, without `k` itself if it was cancelled.  If no job fails, all requests are
made; then a switch thrown by the end cancels the compilation, and otherwise there is one block for
each line, in order, with what belongs to the line and the statements answered for it. -/
theorem compiled_line_by_line :
    List.Forall₂ (analysis.Asks table) analysis.program.lines.toList analysis.requests ∧
    (∀ k e, start.jobFault? translator analysis.requests k = some e →
      (∀ j < k, start.jobFault? translator analysis.requests j = none) →
      (ofSource source table translator start.switch start.state).result = .error e ∧
      asked source table translator start = analysis.requests.take
        (if (start.before translator analysis.requests k).switch.isThrown then k else k + 1)) ∧
    ((∀ k, start.jobFault? translator analysis.requests k = none) →
      asked source table translator start = analysis.requests ∧
      ((start.before translator analysis.requests analysis.requests.length).switch.isThrown →
        (ofSource source table translator start.switch start.state).result = .error .cancelled) ∧
      (¬ (start.before translator analysis.requests analysis.requests.length).switch.isThrown →
        ∃ compilation,
          (ofSource source table translator start.switch start.state).result = .ok compilation ∧
          compilation.assembly.mode = analysis.mode ∧
          compilation.assembly.resources = analysis.context.entries ∧
          compilation.warnings = analysis.warnings ∧
          compilation.assembly.Ordered ∧
          compilation.assembly.numbers = analysis.program.numbers ∧
          ∀ k request, analysis.requests[k]? = some request → ∃ statements,
            (translator (start.before translator analysis.requests k).state request).answer =
              .ok statements ∧
            compilation.assembly.blocks[k]? = some
              ⟨request.line, request.control, request.handler, request.use, statements⟩)) := by
  have hsource := ofSource_eq h translator start
  refine ⟨Analysis.asks_requests h, ?_, ?_⟩
  · intro k e hfault hearlier
    obtain ⟨request, hrequest, -⟩ := Option.bind_eq_some_iff.mp hfault
    rw [hsource, Analysis.compile_of_fault hrequest hfault hearlier]
    exact ⟨rfl, asked_of_fault h translator start hfault hearlier⟩
  · intro hall
    obtain ⟨blocks, hcompile, hblocks⟩ := Analysis.compile_of_no_fault hall
    refine ⟨asked_of_no_fault h translator start hall, ?_, ?_⟩
    · intro hthrown
      rw [hsource, hcompile]
      exact if_pos hthrown
    · intro hopen
      have hresult : (analysis.compile translator start.switch start.state).result = .ok
          ⟨⟨analysis.mode, analysis.context.entries, blocks.toArray⟩, analysis.warnings⟩ := by
        rw [hcompile]
        exact if_neg hopen
      obtain ⟨yields, -⟩ := (Analysis.checked_of_ofSource h).yields hresult
      refine ⟨_, hsource ▸ hresult, rfl, rfl, rfl, yields.ordered, yields.numbers_eq, ?_⟩
      simpa [Analysis.block] using hblocks

end

/-- A subroutine after the line that calls it, and a line out of order. -/
def threeLineSource : String := "20 (redis) load the cart\n10 gosub 20\n30 return"

/-- A translator that throws the switch on line 20 is not asked about line 30.  Without a switch all
three lines are compiled. -/
theorem compiled_line_by_line_threeLineSource :
    ∃ analysis, Analysis.ofSource threeLineSource .builtin = .ok analysis ∧
      (ofSource threeLineSource .builtin (.scripted [(20, .cancel)]) .open_ []).result =
        .error .cancelled ∧
      asked threeLineSource .builtin (.scripted [(20, .cancel)]) ⟨.open_, []⟩ =
        analysis.requests.take 2 ∧
      ∃ compilation, (ofSource threeLineSource .builtin .echo .absent ()).result =
        .ok compilation ∧ compilation.assembly.numbers = analysis.program.numbers := by
  have hanalyses : (Analysis.ofSource threeLineSource .builtin).toOption.any (fun analysis =>
      let cancelling : Translator (List Request) := .scripted [(20, .cancel)]
      let start : Moment (List Request) := ⟨.open_, []⟩
      start.jobFault? cancelling analysis.requests 2 = some .cancelled ∧
      (∀ j < 2, start.jobFault? cancelling analysis.requests j = none) ∧
      (start.before cancelling analysis.requests 2).switch = .thrown ∧
      analysis.requests.length = 3 ∧
      (∀ k < 3, Moment.jobFault? .echo ⟨.absent, ()⟩ analysis.requests k = none) ∧
      (Moment.before .echo ⟨.absent, ()⟩ analysis.requests 3).switch = .absent) = true := by
    decide +kernel
  obtain ⟨analysis, hanalysis, hfacts⟩ := exists_ok_of_any hanalyses
  obtain ⟨hfault, hearlier, hthrown, hlength, hechoed, habsent⟩ := of_decide_eq_true hfacts
  obtain ⟨hresult, hasked⟩ :=
    (compiled_line_by_line hanalysis (.scripted [(20, .cancel)]) ⟨.open_, []⟩).2.1 2 .cancelled
      hfault hearlier
  rw [hthrown] at hasked
  have hnone : ∀ k, Moment.jobFault? .echo ⟨.absent, ()⟩ analysis.requests k = none := by
    intro k
    by_cases hk : k < 3
    · exact hechoed k hk
    · exact Moment.jobFault?_of_length_le _ (by omega)
  have hechoes := ((compiled_line_by_line hanalysis .echo ⟨.absent, ()⟩).2.2 hnone).2.2
  rw [hlength, habsent] at hechoes
  obtain ⟨compilation, hcompilation, -, -, -, -, hnumbers, -⟩ := hechoes (by decide)
  exact ⟨analysis, hanalysis, hresult, hasked, compilation, hcompilation, hnumbers⟩

end Compilation

end NumberedProse
