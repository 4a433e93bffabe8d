import SpritePack.CommandLine.Reader

namespace SpritePack.CommandLine

/-!
# Asking for a more talkative log

That a more talkative log has been asked for stands among what a reader has been
given, but nothing looks for it there until it is asked for again.  So a line
that does not ask for it is read in the same way after an argument that does.
-/

namespace Progress

/-- A reader that was asked for a more talkative log before all else. -/
def asked (progress : Progress) : Progress :=
  { progress with given := (.verbose, []) :: progress.given }

/-- That a step which asks for no more talkative log does the same where that was asked for. -/
def Indifferent (step : Progress → Except Stop Progress) : Prop :=
  ∀ progress after,
    step progress = .ok after →
      after.has .verbose = false →
        progress.has .verbose = false ∧
          step progress.asked = .ok after.asked

theorem Indifferent.congr
    {first second : Progress → Except Stop Progress}
    (indifferent : Indifferent first)
    (same : ∀ progress, second progress = first progress) :
    Indifferent second :=
  funext same ▸ indifferent

/-- Two indifferent steps, one after the other, are an indifferent step. -/
theorem Indifferent.bind
    {first second : Progress → Except Stop Progress}
    (firstIndifferent : Indifferent first)
    (secondIndifferent : Indifferent second) :
    Indifferent fun progress => first progress >>= second := by
  intro progress after taken silent
  dsimp only at taken ⊢
  cases firstTaken : first progress with
  | error stop =>
      rw [firstTaken] at taken
      cases taken
  | ok middle =>
      rw [firstTaken] at taken
      obtain ⟨middleSilent, secondAsked⟩ :=
        secondIndifferent middle after taken silent
      obtain ⟨silentBefore, firstAsked⟩ :=
        firstIndifferent progress middle firstTaken middleSilent
      refine ⟨silentBefore, ?_⟩
      rw [firstAsked]
      exact secondAsked

end Progress

end SpritePack.CommandLine
