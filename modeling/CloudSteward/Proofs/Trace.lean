import CloudSteward.Cloud.Call

/-!
# Traces of programs

A program does not say who answers its questions.  A trace is what a bystander
writes down: the questions in order, each with the answer it got, and the result.
The traces of a program are its behaviour under all answers at once, so a statement
about all traces holds for every client, also for one that changes its mind between
two calls.

`trace_bind_iff` cuts the trace of a composed program at its seam,
`trace_expand_iff` retells a trace in other words, and `exists_trace_of_run` says that
whoever answers, however it keeps its state, leaves a trace.
-/

namespace CloudSteward

namespace Program

variable {Question : Type} {Answer : Question → Type} {α β : Type}

/-- A question and the answer to it. -/
structure Exchange (Question : Type) (Answer : Question → Type) where
  question : Question
  answer : Answer question

/-- A program may ask these questions, get these answers, and end with this result. -/
inductive Trace : Program Question Answer α → List (Exchange Question Answer) → α → Prop where
  | done (value : α) : Trace (.done value) [] value
  | ask {question : Question} {next : Answer question → Program Question Answer α}
      (answer : Answer question) {exchanges : List (Exchange Question Answer)} {value : α} :
      Trace (next answer) exchanges value →
        Trace (.ask question next) (⟨question, answer⟩ :: exchanges) value

@[simp] theorem trace_done_iff {exchanges : List (Exchange Question Answer)} {value result : α} :
    Trace (.done value) exchanges result ↔ exchanges = [] ∧ result = value := by
  constructor
  · rintro ⟨⟩
    exact ⟨rfl, rfl⟩
  · rintro ⟨rfl, rfl⟩
    exact .done _

theorem trace_ask_iff {question : Question} {next : Answer question → Program Question Answer α}
    {exchanges : List (Exchange Question Answer)} {value : α} :
    Trace (.ask question next) exchanges value ↔
      ∃ answer rest, exchanges = ⟨question, answer⟩ :: rest ∧ Trace (next answer) rest value := by
  constructor
  · intro htrace
    cases htrace with
    | ask answer hrest => exact ⟨answer, _, rfl, hrest⟩
  · rintro ⟨answer, rest, rfl, hrest⟩
    exact .ask answer hrest

theorem Trace.bind {program : Program Question Answer α}
    {next : α → Program Question Answer β} {first second : List (Exchange Question Answer)}
    {middle : α} {value : β} (hfirst : Trace program first middle)
    (hsecond : Trace (next middle) second value) :
    Trace (program.bind next) (first ++ second) value := by
  induction hfirst with
  | done => exact hsecond
  | ask answer _ ih => exact .ask answer (ih hsecond)

/-- Of a program with given answers there is one trace and one result, also if other events
follow. -/
theorem Trace.unique {program : Program Question Answer α}
    {first second behind after : List (Exchange Question Answer)} {value result : α}
    (hfirst : Trace program first value) (hsecond : Trace program second result)
    (h : first ++ behind = second ++ after) :
    first = second ∧ value = result ∧ behind = after := by
  induction hfirst generalizing second with
  | done =>
      obtain ⟨rfl, rfl⟩ := trace_done_iff.mp hsecond
      exact ⟨rfl, rfl, h⟩
  | ask answer _ ih =>
      obtain ⟨reply, rest, rfl, hrest⟩ := trace_ask_iff.mp hsecond
      obtain ⟨hexchange, htail⟩ := List.cons.inj h
      cases hexchange
      obtain ⟨rfl, hvalue, hbehind⟩ := ih hrest htail
      exact ⟨rfl, hvalue, hbehind⟩

/-- The trace of a composed program is one of its first part, followed by one of
what its result leads to. -/
theorem trace_bind_iff {program : Program Question Answer α}
    {next : α → Program Question Answer β} {exchanges : List (Exchange Question Answer)}
    {value : β} :
    Trace (program.bind next) exchanges value ↔
      ∃ first second middle, exchanges = first ++ second ∧ Trace program first middle ∧
        Trace (next middle) second value := by
  constructor
  · intro htrace
    induction program generalizing exchanges with
    | done middle => exact ⟨[], exchanges, middle, rfl, .done middle, htrace⟩
    | ask question rest ih =>
        rw [ask_bind, trace_ask_iff] at htrace
        obtain ⟨answer, behind, rfl, hbehind⟩ := htrace
        obtain ⟨first, second, middle, rfl, hfirst, hsecond⟩ := ih answer hbehind
        exact ⟨⟨question, answer⟩ :: first, second, middle, rfl, .ask answer hfirst, hsecond⟩
  · rintro ⟨first, second, middle, rfl, hfirst, hsecond⟩
    exact hfirst.bind hsecond

/-- A program whose result is only changed afterwards. -/
theorem trace_map_iff {program : Program Question Answer α} {change : α → β}
    {exchanges : List (Exchange Question Answer)} {value : β} :
    Trace (program.bind fun result => .done (change result)) exchanges value ↔
      ∃ result, Trace program exchanges result ∧ value = change result := by
  constructor
  · intro htrace
    obtain ⟨first, second, result, rfl, hfirst, hsecond⟩ := trace_bind_iff.mp htrace
    obtain ⟨rfl, rfl⟩ := trace_done_iff.mp hsecond
    rw [List.append_nil]
    exact ⟨result, hfirst, rfl⟩
  · rintro ⟨result, htrace, rfl⟩
    rw [← List.append_nil exchanges]
    exact htrace.bind (.done _)

/-- A program that asks one question and goes on with the answer. -/
theorem trace_perform_bind_iff {question : Question}
    {next : Answer question → Program Question Answer α}
    {exchanges : List (Exchange Question Answer)} {value : α} :
    Trace ((perform question).bind next) exchanges value ↔
      ∃ answer rest, exchanges = ⟨question, answer⟩ :: rest ∧ Trace (next answer) rest value :=
  trace_ask_iff

/-- If a program over other questions stands for each question, and its trace is a single
exchange that tells the same, then the traces of the whole tell the same as well. -/
theorem trace_expand_iff {Other : Type} {OtherAnswer : Other → Type}
    {meaning : (question : Question) → Program Other OtherAnswer (Answer question)}
    {retell : Exchange Question Answer → Exchange Other OtherAnswer}
    (hmeaning : ∀ (question : Question) (next : Answer question → Program Other OtherAnswer α)
      (log : List (Exchange Other OtherAnswer)) (value : α),
      Trace ((meaning question).bind next) log value ↔
        ∃ answer rest, log = retell ⟨question, answer⟩ :: rest ∧ Trace (next answer) rest value)
    {program : Program Question Answer α} {log : List (Exchange Other OtherAnswer)} {value : α} :
    Trace (program.expand meaning) log value ↔
      ∃ exchanges, Trace program exchanges value ∧ log = exchanges.map retell := by
  induction program generalizing log with
  | done result =>
      rw [expand, trace_done_iff]
      constructor
      · rintro ⟨rfl, rfl⟩
        exact ⟨[], .done _, rfl⟩
      · rintro ⟨exchanges, htrace, rfl⟩
        obtain ⟨rfl, rfl⟩ := trace_done_iff.mp htrace
        exact ⟨rfl, rfl⟩
  | ask question next ih =>
      rw [expand, hmeaning]
      constructor
      · rintro ⟨answer, rest, rfl, hrest⟩
        obtain ⟨exchanges, htrace, rfl⟩ := (ih answer).mp hrest
        exact ⟨⟨question, answer⟩ :: exchanges, .ask answer htrace, rfl⟩
      · rintro ⟨exchanges, htrace, rfl⟩
        obtain ⟨answer, rest, rfl, hrest⟩ := trace_ask_iff.mp htrace
        exact ⟨answer, rest.map retell, rfl, (ih answer).mpr ⟨rest, hrest, rfl⟩⟩

/-- The parts of a program are run one after the other. -/
theorem run_bind {State : Type} {answer : (question : Question) → StateM State (Answer question)}
    (program : Program Question Answer α) (next : α → Program Question Answer β) (state : State) :
    (program.bind next).run answer state =
      (next (program.run answer state).1).run answer (program.run answer state).2 := by
  induction program generalizing state with
  | done value => rfl
  | ask question rest ih => exact ih (answer question state).1 (answer question state).2

/-- What a bystander writes down of a run. -/
def record {State : Type} (answer : (question : Question) → StateM State (Answer question)) :
    Program Question Answer α → State → List (Exchange Question Answer)
  | .done _, _ => []
  | .ask question next, state =>
      ⟨question, (answer question state).1⟩ ::
        (next (answer question state).1).record answer (answer question state).2

theorem trace_record {State : Type}
    (answer : (question : Question) → StateM State (Answer question))
    (program : Program Question Answer α) (state : State) :
    Trace program (program.record answer state) (program.run answer state).1 := by
  induction program generalizing state with
  | done value => exact .done value
  | ask question next ih =>
      exact .ask _ (ih (answer question state).1 (answer question state).2)

/-- Whoever answers, with whatever state, leaves a trace that ends with the result. -/
theorem exists_trace_of_run {State : Type}
    (answer : (question : Question) → StateM State (Answer question))
    (program : Program Question Answer α) (state : State) :
    ∃ exchanges, Trace program exchanges (program.run answer state).1 :=
  ⟨_, trace_record answer program state⟩

end Program

/-- A call and the reply to it. -/
abbrev Exchange :=
  Program.Exchange Call Call.Reply

/-- Whether a call failed, for whatever reason. -/
def Program.Exchange.failed (exchange : CloudSteward.Exchange) : Bool :=
  match exchange.answer with
  | .ok _ => false
  | .error _ => true

end CloudSteward
