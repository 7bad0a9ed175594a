/-!
# Programs that ask questions

A program is done with a value, or it asks a question and goes on with the
answer.  Who answers is left open: a cloud in memory, a server, or nobody in
particular when something is said about all answers.
-/

namespace CloudSteward

/-- A program with a result in `α` whose questions are answered as `Answer` says. -/
inductive Program (Question : Type) (Answer : Question → Type) (α : Type) where
  | done (value : α)
  | ask (question : Question) (next : Answer question → Program Question Answer α)

namespace Program

variable {Question : Type} {Answer : Question → Type} {α β : Type}

/-- Goes on with the result of a program. -/
def bind : Program Question Answer α → (α → Program Question Answer β) →
    Program Question Answer β
  | .done value, next => next value
  | .ask question rest, next => .ask question fun answer => (rest answer).bind next

instance : Monad (Program Question Answer) where
  pure := .done
  bind := bind

/-- Asks one question. -/
def perform (question : Question) : Program Question Answer (Answer question) :=
  .ask question .done

/-- Runs a program with the given answers. -/
def run {m : Type → Type} [Monad m] (answer : (question : Question) → m (Answer question)) :
    Program Question Answer α → m α
  | .done value => pure value
  | .ask question next => do
      let reply ← answer question
      (next reply).run answer

/-- Replaces each question by a program over other questions. -/
def expand {Other : Type} {OtherAnswer : Other → Type}
    (meaning : (question : Question) → Program Other OtherAnswer (Answer question)) :
    Program Question Answer α → Program Other OtherAnswer α
  | .done value => .done value
  | .ask question next => (meaning question).bind fun answer => (next answer).expand meaning

@[simp] theorem pure_eq_done (value : α) :
    (pure value : Program Question Answer α) = .done value := rfl

@[simp] theorem bind_eq_bind (program : Program Question Answer α)
    (next : α → Program Question Answer β) : program >>= next = program.bind next := rfl

@[simp] theorem done_bind (value : α) (next : α → Program Question Answer β) :
    (Program.done value).bind next = next value := rfl

@[simp] theorem ask_bind (question : Question)
    (rest : Answer question → Program Question Answer α)
    (next : α → Program Question Answer β) :
    (Program.ask question rest).bind next = .ask question fun answer => (rest answer).bind next :=
  rfl

end Program

end CloudSteward
