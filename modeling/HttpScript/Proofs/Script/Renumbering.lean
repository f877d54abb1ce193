import HttpScript.Proofs.Script.Completeness

/-!
# Line numbers play no part in reading

The reader hands line numbers on to requests and errors and does nothing else with them. So lines
with other numbers read as the same requests or give the same error, with the numbers changed in the
same way, and what was read before only stands in front of what is read.
-/
namespace HttpScript

/-- A change of line numbers: those of lines, and those that requests name. -/
structure Renumbering where
  number : Nat → Nat
  named : Int → Int
  agrees : ∀ n : Nat, named n = number n

namespace Renumbering

/-- Every line moves down by `k`. -/
def shift (k : Nat) : Renumbering where
  number n := n + k
  named n := n + k
  agrees _ := rfl

/-- The lines below the first `above` ones move down by one. -/
def makeRoom (above : Nat) : Renumbering where
  number n := if above < n then n + 1 else n
  named n := if above < n then n + 1 else n
  agrees n := by
    simp only [Nat.cast_lt]
    split <;> rfl

variable (f : Renumbering)

def onLine (l : Line) : Line := { l with number := f.number l.number }

def onRequest (r : Request) : Request := { r with line := f.named r.line }

def onError (e : SyntaxError) : SyntaxError := { e with line := f.number e.line }

def onFault : ScriptFault → ScriptFault
  | .syntaxError e => .syntaxError (f.onError e)
  | .longInteger digits => .longInteger digits

/-- A result that `g` changes, or a fault whose line has another number. -/
def onOutcome {α β : Type} (g : α → β) : Except ScriptFault α → Except ScriptFault β
  | .ok a => .ok (g a)
  | .error fault => .error (f.onFault fault)

def onStage : Stage → Stage
  | .between => .between
  | .inRequest r => .inRequest (f.onRequest r)
  | .inBody r first more => .inBody (f.onRequest r) (f.onLine first) (more.map f.onLine)

/-- The same place in a script whose first requests are `before`. -/
def onProgress (before : List Request) (p : Progress) : Progress :=
  ⟨before ++ p.done.map f.onRequest, f.onStage p.stage⟩

/-- Steps that each change results and faults alike do so one after the other. -/
theorem onOutcome_bind {α β γ δ : Type} {g : α → γ} {h : β → δ} {k : α → Except ScriptFault β}
    {k' : γ → Except ScriptFault δ} (hk : ∀ a, k' (g a) = f.onOutcome h (k a))
    (x : Except ScriptFault α) : (f.onOutcome g x >>= k') = f.onOutcome h (x >>= k) := by
  cases x with
  | ok a => exact hk a
  | error fault => rfl

theorem map_onLine_numberLines {n m : Nat} {ls : List (List Char)}
    (h : ∀ i < ls.length, f.number (n + i) = m + i) :
    (numberLines n ls).map f.onLine = numberLines m ls := by
  induction ls generalizing n m with
  | nil => rfl
  | cons s ls ih =>
    have hfirst : f.number n = m := h 0 (Nat.succ_pos _)
    have hrest : ∀ i < ls.length, f.number (n + 1 + i) = m + 1 + i := by
      intro i hi
      have hnext := h (i + 1) (Nat.succ_lt_succ hi)
      rwa [Nat.add_right_comm, Nat.add_assoc, Nat.add_right_comm, Nat.add_assoc]
    rw [numberLines, List.map_cons, ih hrest, numberLines, onLine, hfirst]

/-! ### One line -/

variable {f} (l : Line) (first argument : List Char)

theorem number?_onLine :
    (f.onLine l).number? first argument = f.onOutcome id (l.number? first argument) := by
  unfold Line.number?
  split
  · rfl
  · split
    · rfl
    · split <;> rfl

theorem field?_onLine :
    (f.onLine l).field? first argument = f.onOutcome id (l.field? first argument) := by
  unfold Line.field?
  split
  · rfl
  · dsimp only
    split <;> rfl

theorem beginRequest_onLine :
    beginRequest (f.onLine l) first argument =
      f.onOutcome f.onRequest (beginRequest l first argument) := by
  unfold beginRequest
  split
  · rfl
  · split
    · rfl
    · simp only [onOutcome, onRequest, onLine, f.agrees]
  · rfl

theorem continueRequest_onLine (r : Request) :
    continueRequest (f.onRequest r) (f.onLine l) first argument =
      f.onOutcome f.onRequest (continueRequest r l first argument) := by
  unfold continueRequest
  split
  · rw [number?_onLine]
    cases l.number? first argument <;> rfl
  · rw [field?_onLine]
    cases l.field? first argument <;> rfl
  · rw [number?_onLine]
    cases l.number? first argument <;> rfl
  · rw [field?_onLine]
    cases l.field? first argument <;> rfl
  · rfl

/-! ### Bodies -/

theorem bodyText_onLine (first : Line) (more : List Line) :
    bodyText (f.onLine first) (more.map f.onLine) = bodyText first more := by
  rw [bodyText_eq, bodyText_eq, ← List.map_cons, List.map_map]
  rfl

theorem bodyLine_onLine (first : Line) (more : List Line) (n : Nat) :
    bodyLine (f.onLine first) (more.map f.onLine) n = f.onLine (bodyLine first more n) := by
  rw [bodyLine, bodyLine, List.length_map, ← List.map_cons, List.getD_map]

/-- The error of a body stands in the same line of it, whatever the numbers of its lines. -/
theorem bodyError_onLine (first : Line) (more : List Line) (text : List Char)
    (fault : Json.Fault) :
    bodyError (f.onLine first) (more.map f.onLine) text fault =
      f.onFault (bodyError first more text fault) := by
  cases fault with
  | malformed what left =>
    simp only [bodyError, bodyLine_onLine]
    rfl
  | nonFinite what left =>
    have hfind : ∀ word : List Char,
        (f.onLine first :: more.map f.onLine).find? (fun l => (Text.find? word l.source).isSome) =
          ((first :: more).find? fun l => (Text.find? word l.source).isSome).map f.onLine := by
      intro word
      rw [← List.map_cons, List.find?_map]
      rfl
    simp only [bodyError, hfind, Option.getD_map]
    rfl
  | longInteger digits => rfl

theorem readBody_onLine (first : Line) (more : List Line) :
    readBody (f.onLine first) (more.map f.onLine) = f.onOutcome id (readBody first more) := by
  simp only [readBody, bodyText_onLine]
  cases Json.read .refuse (bodyText first more) with
  | ok v => rfl
  | error fault => exact congrArg Except.error (bodyError_onLine first more _ fault)

/-! ### The reader -/

variable (before : List Request)

theorem words_onLine (done : List Request) (current : Option Request) :
    Progress.words (before ++ done.map f.onRequest) (current.map f.onRequest) (f.onLine l) first
        argument =
      f.onOutcome (f.onProgress before) (Progress.words done current l first argument) := by
  cases current with
  | none =>
    simp only [Progress.words, Option.map_none, beginRequest_onLine]
    cases beginRequest l first argument <;> rfl
  | some r =>
    simp only [Progress.words, Option.map_some]
    split
    · rfl
    · split
      · rw [beginRequest_onLine]
        refine f.onOutcome_bind (fun r' => ?_) _
        simp [onProgress, onOutcome, onStage, pure, Except.pure]
      · rw [continueRequest_onLine]
        cases continueRequest r l first argument <;> rfl

theorem closeBody_onProgress (p : Progress) :
    (f.onProgress before p).closeBody = f.onOutcome (f.onProgress before) p.closeBody := by
  obtain ⟨done, stage⟩ := p
  cases stage with
  | between | inRequest => rfl
  | inBody r first more =>
    simp only [Progress.closeBody, onProgress, onStage, readBody_onLine]
    cases readBody first more <;> rfl

theorem closeRequest_onProgress (p : Progress) :
    (f.onProgress before p).closeRequest = f.onProgress before p.closeRequest := by
  obtain ⟨done, stage⟩ := p
  cases stage with
  | between | inBody => rfl
  | inRequest r => simp [onProgress, onStage, Progress.closeRequest]

theorem step_onProgress (p : Progress) :
    (f.onProgress before p).step (f.onLine l) =
      f.onOutcome (f.onProgress before) (p.step l) := by
  have hshape : (f.onLine l).shape = l.shape := rfl
  unfold Progress.step
  rw [hshape]
  split
  · rfl
  · rw [closeBody_onProgress]
    exact f.onOutcome_bind (fun q => congrArg Except.ok (closeRequest_onProgress before q)) _
  · rename_i first argument _
    obtain ⟨done, stage⟩ := p
    cases stage with
    | between => exact words_onLine l first argument before done none
    | inRequest r => exact words_onLine l first argument before done (some r)
    | inBody r head more =>
      simp only [onProgress, onStage]
      split
      · simp [onOutcome, onProgress, onStage]
      · rw [readBody_onLine]
        refine f.onOutcome_bind (fun body => ?_) _
        exact words_onLine l first argument before done (some { r with body := some body })

theorem foldlM_onProgress (ls : List Line) (p : Progress) :
    (ls.map f.onLine).foldlM Progress.step (f.onProgress before p) =
      f.onOutcome (f.onProgress before) (ls.foldlM Progress.step p) := by
  induction ls generalizing p with
  | nil => rfl
  | cons l ls ih =>
    rw [List.map_cons, List.foldlM_cons, List.foldlM_cons, step_onProgress]
    exact f.onOutcome_bind ih _

theorem finish_onProgress (p : Progress) :
    (f.onProgress before p).finish =
      f.onOutcome (fun requests => before ++ requests.map f.onRequest) p.finish := by
  unfold Progress.finish
  rw [closeBody_onProgress]
  refine f.onOutcome_bind (fun q => ?_) _
  rw [closeRequest_onProgress]
  rfl

/-- Lines with other numbers, read behind requests that are complete. -/
theorem read_onLine (ls : List Line) :
    ((ls.map f.onLine).foldlM Progress.step ⟨before, .between⟩ >>= Progress.finish) =
      f.onOutcome (fun requests => before ++ requests.map f.onRequest) (readLines ls) := by
  have hstart : f.onProgress before Progress.start = ⟨before, .between⟩ := by
    simp [onProgress, onStage, Progress.start]
  rw [← hstart, foldlM_onProgress]
  exact f.onOutcome_bind (finish_onProgress before) _

/-- Lines with other numbers read as the same requests, or give the same error. -/
theorem readLines_onLine (ls : List Line) :
    readLines (ls.map f.onLine) = f.onOutcome (List.map f.onRequest) (readLines ls) :=
  read_onLine [] ls

end Renumbering

end HttpScript
