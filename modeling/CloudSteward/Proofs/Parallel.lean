import CloudSteward.Proofs.Trace

/-!
# Programs that go alike

Two programs go alike if they ask the same questions for as long as they get the same answers,
and come to results that are related (`Alike`).  Which questions they may ask is said along with
it, since a statement about two runs mostly holds because some questions are never asked.

From this comes what two runs have in common (`Alike.run`): let two states be related in a way
that shows in no answer to a question that may be asked, and that no such answer breaks.  Then
the runs from both give related results and leave related states.

The other way to compare two runs is to give one program to two clients, each with a state of
its own (`AnswerAlike`).  Clients that answer alike are asked the same (`record_eq`).
-/

namespace CloudSteward.Program

variable {Question : Type} {Answer : Question → Type} {α β γ δ : Type}
  {allowed : Question → Prop} {related : α → β → Prop} {later : γ → δ → Prop}

/-- Two programs ask the same allowed questions and give related results. -/
inductive Alike (allowed : Question → Prop) (related : α → β → Prop) :
    Program Question Answer α → Program Question Answer β → Prop where
  | done {first : α} {second : β} : related first second →
      Alike allowed related (.done first) (.done second)
  | ask {question : Question} {next : Answer question → Program Question Answer α}
      {other : Answer question → Program Question Answer β} : allowed question →
      (∀ answer, Alike allowed related (next answer) (other answer)) →
        Alike allowed related (.ask question next) (.ask question other)

theorem Alike.bind {first : Program Question Answer α} {second : Program Question Answer β}
    {next : α → Program Question Answer γ} {other : β → Program Question Answer δ}
    (h : Alike allowed related first second)
    (hnext : ∀ one two, related one two → Alike allowed later (next one) (other two)) :
    Alike allowed later (first.bind next) (second.bind other) := by
  induction h with
  | done hrelated => exact hnext _ _ hrelated
  | ask hallowed _ ih => exact .ask hallowed ih

/-- A program that asks one question, and goes on alike with every answer. -/
theorem Alike.perform_bind {question : Question}
    {next : Answer question → Program Question Answer α}
    {other : Answer question → Program Question Answer β} (hallowed : allowed question)
    (hnext : ∀ answer, Alike allowed related (next answer) (other answer)) :
    Alike allowed related ((perform question).bind next) ((perform question).bind other) :=
  .ask hallowed hnext

/-- A program that may ask anything goes like itself. -/
theorem alike_self (program : Program Question Answer α) :
    Alike (fun _ => True) Eq program program := by
  induction program with
  | done value => exact .done rfl
  | ask question next ih => exact .ask trivial ih

/-- A program in other words goes like itself if these words may be used. -/
theorem alike_expand {Other : Type} {OtherAnswer : Other → Type} {allowed : Other → Prop}
    {meaning : (question : Question) → Program Other OtherAnswer (Answer question)}
    (hmeaning : ∀ question, Alike allowed Eq (meaning question) (meaning question))
    (program : Program Question Answer α) :
    Alike allowed Eq (program.expand meaning) (program.expand meaning) := by
  induction program with
  | done value => exact .done rfl
  | ask question next ih =>
      refine (hmeaning question).bind fun one two heq => ?_
      rw [heq]
      exact ih two

/-! ## Runs -/

/-- Programs that go alike have runs that go alike, from states that look the same to them. -/
theorem Alike.run {State : Type} {answer : (question : Question) → StateM State (Answer question)}
    {similar : State → State → Prop} {first : Program Question Answer α}
    {second : Program Question Answer β} {state twin : State}
    (h : Alike allowed related first second)
    (hanswer : ∀ question, allowed question → ∀ state twin, similar state twin →
      (answer question state).1 = (answer question twin).1 ∧
        similar (answer question state).2 (answer question twin).2)
    (hsimilar : similar state twin) :
    related (first.run answer state).1 (second.run answer twin).1 ∧
      similar (first.run answer state).2 (second.run answer twin).2 := by
  induction h generalizing state twin with
  | done hrelated => exact ⟨hrelated, hsimilar⟩
  | @ask question next other hallowed _ ih =>
      obtain ⟨hreply, hafter⟩ := hanswer question hallowed state twin hsimilar
      show related ((next (answer question state).1).run answer (answer question state).2).1
          ((other (answer question twin).1).run answer (answer question twin).2).1 ∧
        similar ((next (answer question state).1).run answer (answer question state).2).2
          ((other (answer question twin).1).run answer (answer question twin).2).2
      rw [← hreply]
      exact ih (answer question state).1 hafter

/-- A client is asked the same by programs that go alike. -/
theorem Alike.record_eq {State : Type} {first : Program Question Answer α}
    {second : Program Question Answer β} (h : Alike allowed related first second)
    (answer : (question : Question) → StateM State (Answer question)) (state : State) :
    first.record answer state = second.record answer state := by
  induction h generalizing state with
  | done => rfl
  | ask _ _ ih => exact congrArg _ (ih _ _)

/-! ## Two clients -/

/-- Two clients give the same answers for as long as they are asked the same. -/
def AnswerAlike {State Other : Type}
    (first : (question : Question) → StateM State (Answer question))
    (second : (question : Question) → StateM Other (Answer question))
    (similar : State → Other → Prop) : Prop :=
  ∀ question state twin, similar state twin →
    (first question state).1 = (second question twin).1 ∧
      similar (first question state).2 (second question twin).2

/-- A program asks clients that answer alike the same questions, and ends with the same
result. -/
theorem AnswerAlike.record_eq {State Other : Type}
    {first : (question : Question) → StateM State (Answer question)}
    {second : (question : Question) → StateM Other (Answer question)}
    {similar : State → Other → Prop} (h : AnswerAlike first second similar)
    (program : Program Question Answer α) {state : State} {twin : Other}
    (hsimilar : similar state twin) :
    program.record first state = program.record second twin ∧
      (program.run first state).1 = (program.run second twin).1 := by
  induction program generalizing state twin with
  | done value => exact ⟨rfl, rfl⟩
  | ask question next ih =>
      obtain ⟨hreply, hafter⟩ := h question state twin hsimilar
      show _ :: (next (first question state).1).record first (first question state).2 =
          _ :: (next (second question twin).1).record second (second question twin).2 ∧
        ((next (first question state).1).run first (first question state).2).1 =
          ((next (second question twin).1).run second (second question twin).2).1
      rw [hreply]
      obtain ⟨hrecord, hresult⟩ := ih (second question twin).1 hafter
      exact ⟨congrArg _ hrecord, hresult⟩

end CloudSteward.Program
