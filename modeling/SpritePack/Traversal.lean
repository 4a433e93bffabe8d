namespace SpritePack

/-!
# Traversals of long lists

Pictures are lists of many thousands of pixels, so these traversals run in
constant stack space. Each comes with the equations that a reader would expect
of the plain recursive definition.
-/

namespace Traversal

variable {α β σ : Type}

/-- The loop of `mapState`, with the results so far in reverse. -/
def mapStateFrom
    (step : σ → α → β × σ) :
    List β → σ → List α → List β
  | results, _, [] => results.reverse
  | results, state, item :: rest =>
      let advanced := step state item
      mapStateFrom step (advanced.1 :: results) advanced.2 rest

/-- Map over a list while passing a state from each item to the next. -/
def mapState
    (step : σ → α → β × σ)
    (start : σ)
    (items : List α) :
    List β :=
  mapStateFrom step [] start items

/-- The results so far come first, and have no part in the rest. -/
theorem mapStateFrom_eq_append
    (step : σ → α → β × σ)
    (results : List β)
    (state : σ)
    (items : List α) :
    mapStateFrom step results state items =
      results.reverse ++ mapState step state items := by
  unfold mapState
  induction items generalizing results state with
  | nil => simp [mapStateFrom]
  | cons item rest inductionHypothesis =>
      rw [mapStateFrom, mapStateFrom, inductionHypothesis, inductionHypothesis [_]]
      simp

@[simp] theorem mapState_nil
    (step : σ → α → β × σ)
    (start : σ) :
    mapState step start [] = [] := rfl

@[simp] theorem mapState_cons
    (step : σ → α → β × σ)
    (start : σ)
    (item : α)
    (rest : List α) :
    mapState step start (item :: rest) =
      (step start item).1 :: mapState step (step start item).2 rest := by
  rw [mapState, mapStateFrom, mapStateFrom_eq_append]
  rfl

/-- There is a result for each item. -/
@[simp] theorem length_mapState
    (step : σ → α → β × σ)
    (start : σ)
    (items : List α) :
    (mapState step start items).length = items.length := by
  induction items generalizing start with
  | nil => rfl
  | cons item rest inductionHypothesis => simp [inductionHypothesis]

/-- The loop of `chunks`, with the finished chunks in reverse. -/
def chunksFrom
    (size : Nat)
    (done : List (List α))
    (items : List α) :
    List (List α) :=
  if _more : 0 < size ∧ items ≠ [] then
    chunksFrom size (items.take size :: done) (items.drop size)
  else
    done.reverse
termination_by items.length
decreasing_by
  have := List.length_pos_iff.mpr _more.2
  simp only [List.length_drop]
  omega

/--
Cut a list into pieces of the given size, of which only the last may be
shorter. Pieces of size zero are no pieces at all.
-/
def chunks
    (size : Nat)
    (items : List α) :
    List (List α) :=
  chunksFrom size [] items

/-- The chunks so far come first, and have no part in the rest. -/
theorem chunksFrom_eq_append
    (size : Nat)
    (done : List (List α))
    (items : List α) :
    chunksFrom size done items = done.reverse ++ chunks size items := by
  unfold chunks
  by_cases more : 0 < size ∧ items ≠ []
  · have := List.length_pos_iff.mpr more.2
    have unfolded := fun pieces : List (List α) =>
      (chunksFrom.eq_1 size pieces items).trans (dif_pos more)
    rw [unfolded, unfolded, chunksFrom_eq_append, chunksFrom_eq_append size [_]]
    simp
  · have unfolded := fun pieces : List (List α) =>
      (chunksFrom.eq_1 size pieces items).trans (dif_neg more)
    rw [unfolded, unfolded]
    simp
termination_by items.length
decreasing_by
  all_goals
    simp only [List.length_drop]
    omega

@[simp] theorem chunks_nil
    (size : Nat) :
    chunks size ([] : List α) = [] := by
  simp [chunks, chunksFrom]

/-- The first chunk is cut off at the front, and the others are those of what remains. -/
theorem chunks_eq_cons
    {size : Nat}
    {items : List α}
    (positive : 0 < size)
    (nonempty : items ≠ []) :
    chunks size items = items.take size :: chunks size (items.drop size) := by
  rw [chunks, chunksFrom, dif_pos ⟨positive, nonempty⟩, chunksFrom_eq_append]
  rfl

/-- The loop of `weave`, with the woven items so far in reverse. -/
def weaveFrom
    (woven : List α) :
    List α → List α → List α
  | [], others => woven.reverse ++ others
  | item :: rest, others => weaveFrom (item :: woven) others rest
termination_by firsts others => firsts.length + others.length

/--
Alternate between two lists, starting with the first. Once a list has run out
in its turn, the rest of the other follows.
-/
def weave (evens odds : List α) : List α :=
  weaveFrom [] evens odds

/-- What has been woven comes first, and has no part in the rest. -/
theorem weaveFrom_eq_append
    (woven evens odds : List α) :
    weaveFrom woven evens odds = woven.reverse ++ weave evens odds := by
  unfold weave
  match evens with
  | [] => simp [weaveFrom]
  | item :: rest =>
      rw [weaveFrom, weaveFrom, weaveFrom_eq_append, weaveFrom_eq_append [item]]
      simp
termination_by evens.length + odds.length

@[simp] theorem weave_nil
    (odds : List α) :
    weave [] odds = odds := by
  simp [weave, weaveFrom]

/-- After an item of one list comes one of the other. -/
@[simp] theorem weave_cons
    (item : α)
    (rest odds : List α) :
    weave (item :: rest) odds = item :: weave odds rest := by
  rw [weave, weaveFrom, weaveFrom_eq_append]
  rfl

/-- The items at even places, counting from zero. -/
def evens : List α → List α
  | [] => []
  | [item] => [item]
  | item :: _ :: rest => item :: evens rest

/-- The items at odd places, counting from zero. -/
def odds (items : List α) : List α :=
  evens items.tail

@[simp] theorem evens_nil : evens ([] : List α) = [] := rfl

@[simp] theorem odds_nil : odds ([] : List α) = [] := rfl

@[simp] theorem odds_cons
    (item : α)
    (rest : List α) :
    odds (item :: rest) = evens rest := rfl

/-- Behind the first item, odd places become even ones. -/
@[simp] theorem evens_cons
    (item : α)
    (rest : List α) :
    evens (item :: rest) = item :: odds rest := by
  cases rest <;> rfl

/-- Weaving puts together what lies at even and at odd places. -/
@[simp] theorem weave_evens_odds
    (items : List α) :
    weave (evens items) (odds items) = items := by
  induction items with
  | nil => simp
  | cons item rest inductionHypothesis => simp [inductionHypothesis]

/-- The places are shared out evenly; an item left over is at an even one. -/
theorem length_evens_odds
    (items : List α) :
    (evens items).length = (items.length + 1) / 2 ∧
      (odds items).length = items.length / 2 := by
  induction items with
  | nil => simp
  | cons item rest inductionHypothesis =>
      simp only [evens_cons, odds_cons, List.length_cons]
      omega

end Traversal

end SpritePack
