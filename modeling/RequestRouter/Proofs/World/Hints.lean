import RequestRouter.Argument.Slot
import RequestRouter.Proofs.World.Laws

/-!
# Type hints keep laws

A type hint that is written as a text is evaluated when a call is prepared, and its term can call
what is known to the world. So reading a hint keeps a law if calls do. Each rule is treated on its
own, for any evaluator of the smaller terms that keeps the law (`Evaluator.Steady`); the depth of
terms is then the only induction.
-/

namespace RequestRouter.Hint

variable {L : Law} {α : Type}

/-! ## Steps of evaluations -/

theorem keeps_settled {result : Except Fault α} : L.Keeps (settled result) :=
  .lift (.ofExcept result)

theorem keeps_settledTerm {result : Except TermFault α} : L.Keeps (settledTerm result) :=
  keeps_settled

theorem keeps_refuse {problem : TypeProblem} : L.Keeps (refuse problem : Evaluation α) :=
  keeps_settled

theorem keeps_names : L.Keeps (get : Evaluation Names) := fun _ => .pure _

theorem keeps_keep {change : Names → Names} : L.Keeps (modify change : Evaluation Unit) :=
  fun _ => .pure _

theorem keeps_world {f : World → Evaluation α} (hf : ∀ world, L.Keeps (f world))
    (huntraced : ∀ world trace, f (world.withTrace trace) = f world) :
    L.Keeps (getThe World >>= f) := by
  intro names
  have hread : L.Keeps (get >>= fun world => (f world).run names) :=
    .read (fun world => hf world names) fun world trace => by rw [huntraced]
  exact hread

theorem keeps_tryCatch {x : Evaluation α} {handle : Fault → Evaluation α} (hx : L.Keeps x)
    (hhandle : ∀ fault, L.Keeps (handle fault)) : L.Keeps (tryCatch x handle) :=
  fun names => .tryCatch (hx names) fun fault => hhandle fault names

theorem keeps_throw {fault : Fault} : L.Keeps (throw fault : Evaluation α) :=
  fun _ => .throw fault

/-! ## Attributes -/

theorem keeps_classMember {c : Class} {name : String} : L.Keeps (classMember c name) := by
  refine .read (fun world => .bind keeps_bodyOf fun body => ?_) fun _ _ => rfl
  split
  · exact .pure _
  · exact .pure _
  · exact .pure _
  · split
    · exact .pure _
    · refine .ite (.pure _) (.ite (.ite (.pure _) (.ite (.pure _) (.pure _))) ?_)
      exact .ite (.pure _) (.ite (.pure _) (.throw _))

theorem keeps_instanceMember {v : Value} {name : String} : L.Keeps (instanceMember v name) := by
  refine .bind keeps_bodyOf fun body => ?_
  split
  · exact .pure _
  · exact .pure _
  · exact .pure _
  · split
    · exact .pure _
    · exact .pure _
    · exact .pure _
    · exact .pure _
    · exact .pure _
    · exact .ite (.pure _) (.ite (.pure _) (.throw _))

theorem keeps_member {m : Meaning} {name : String} : L.Keeps (member m name) := by
  unfold member
  split
  · exact keeps_classMember
  · split
    · exact .pure _
    · exact keeps_classMember
  · split
    · exact .pure _
    · exact .pure _
    · exact .ofExcept _
  · exact .ofExcept _
  · exact .ofExcept _
  · exact keeps_instanceMember
  · exact .ofExcept _

theorem keeps_attributeNamed {m name : Meaning} : L.Keeps (attributeNamed m name) := by
  unfold attributeNamed
  split
  · exact .lift keeps_member
  · exact keeps_refuse

/-! ## Names and keys -/

theorem keeps_meaningOf {known : Names} {name : String} : L.Keeps (meaningOf known name) := by
  refine .bind keeps_names fun names => ?_
  split
  · exact .pure _
  · exact .pure _
  · refine keeps_world (fun world => ?_) fun _ _ => rfl
    split
    · exact .pure _
    · exact .pure _
    · exact keeps_settledTerm

theorem keeps_checkKey {m : Meaning} : L.Keeps (checkKey m) := by
  unfold checkKey
  split
  · exact keeps_refuse
  · exact .pure _

/-! ## Calls of what is known to the world -/

theorem keeps_callClass {c : Class} {given : Given} : L.Keeps (callClass c given) := by
  refine keeps_world (fun world => .ite ?_ keeps_settled) fun _ _ => rfl
  exact .bind (.lift keeps_construct) fun _ => .pure _

theorem keeps_callMethod {f : Function} {receiver : Option Value} {given : Given} :
    L.Keeps (callMethod f receiver given) :=
  .bind (.lift keeps_callFunction) fun _ => .pure _

theorem keeps_callAttached {of : Meaning} {name : String} {given : Given} :
    L.Keeps (callAttached of name given) := by
  unfold callAttached
  split
  · exact keeps_world (fun _ => .pure _) fun _ _ => rfl
  · exact keeps_settledTerm
  · exact keeps_settledTerm
  · exact keeps_settledTerm
  · exact keeps_world (fun _ => .pure _) fun _ _ => rfl
  · exact .pure _
  · exact keeps_settled

theorem keeps_callDetached {c : Class} {name : String} {given : Given} :
    L.Keeps (callDetached c name given) := by
  unfold callDetached
  split
  · exact keeps_refuse
  · exact .ite keeps_callAttached keeps_refuse

/-! ## Rules over an evaluator -/

/-- Whatever an evaluator does keeps a law. -/
def Evaluator.Steady (L : Law) (e : Evaluator) : Prop := ∀ known term, L.Keeps (e known term)

mutual

/-- The layout of a piece is made of pieces again. -/
theorem keeps_evaluatePiece {e : Evaluator} (he : e.Steady L) {known : Names} :
    (piece : FormatPiece) → L.Keeps (evaluatePiece e known piece)
  | .text _ => .pure _
  | .field _ _ layout => by
    refine .bind (he _ _) fun m => .bind (keeps_evaluatePieces he layout) fun shown => ?_
    split
    · refine .bind keeps_settled fun laid => ?_
      split
      · exact .pure _
      · exact .pure _
    · exact .pure _

theorem keeps_evaluatePieces {e : Evaluator} (he : e.Steady L) {known : Names} :
    (pieces : List FormatPiece) → L.Keeps (evaluatePieces e known pieces)
  | [] => .pure _
  | piece :: rest => by
    refine .bind (keeps_evaluatePiece he piece) fun front => ?_
    exact .bind (keeps_evaluatePieces he rest) fun back => .pure _

end

section Rules

variable {e : Evaluator} (he : e.Steady L) {known : Names}

include he

theorem keeps_itemsIn {m : Meaning} : L.Keeps (itemsIn e m) := by
  unfold itemsIn
  split
  · exact .bind (he _ _) fun _ => keeps_settled
  · exact .bind (.pure _) fun _ => keeps_settled

/-- By induction on the clauses: each of them runs the ones behind it once for each value. -/
theorem keeps_runClauses {body : Names → Evaluation (List α)} (hbody : ∀ known, L.Keeps (body known))
    (clauses : List Clause) (known : Names) : L.Keeps (runClauses e body clauses known) := by
  induction clauses generalizing known with
  | nil => exact hbody known
  | cons clause rest ih =>
    obtain ⟨target, source, conditions⟩ := clause
    refine .bind (he _ _) fun _ => .bind (keeps_itemsIn he) fun row => ?_
    refine .bind (.mapM (fun m => ?_) row) fun _ => .pure _
    refine .bind keeps_settledTerm fun known => ?_
    refine .bind (.allM (fun condition => ?_) conditions) fun admitted => ?_
    · exact .bind (he _ _) fun _ => .pure _
    · exact .ite (ih known) (.pure _)

theorem keeps_comprehend {collecting : Collecting} {key : Option Term} {element : Term}
    {clauses : List Clause} : L.Keeps (comprehend e known collecting key element clauses) := by
  have helements : L.Keeps (runClauses e (fun known => return [← e known element]) clauses known) :=
    keeps_runClauses he (fun _ => .bind (he _ _) fun _ => .pure _) clauses known
  unfold comprehend
  split
  · exact .bind helements fun _ => .pure _
  · refine .bind helements fun row => ?_
    exact .bind (.forM (fun _ => keeps_checkKey) row) fun _ => .pure _
  · refine .bind (keeps_runClauses he (fun _ => ?_) clauses known) fun _ => .pure _
    refine .bind (he _ _) fun _ => .bind (he _ _) fun _ => ?_
    exact .bind keeps_checkKey fun _ => .pure _
  · exact .bind (he _ _) fun _ => .bind (keeps_itemsIn he) fun _ => .pure _
  · exact .pure _

theorem keeps_evaluateItems {items : List Term} : L.Keeps (evaluateItems e known items) := by
  refine .bind (.mapM (fun item => ?_) items) fun _ => .pure _
  split
  · refine .bind (he _ _) fun m => ?_
    split
    · exact keeps_itemsIn he
    · exact .pure _
    · exact keeps_refuse
  · exact .bind (he _ _) fun _ => .pure _

theorem keeps_evaluateDisplay {kind : Display} {items : List Term} :
    L.Keeps (evaluateDisplay e known kind items) := by
  refine .bind (keeps_evaluateItems he) fun row => ?_
  split
  · exact .pure _
  · exact .pure _
  · exact .bind (.forM (fun _ => keeps_checkKey) row) fun _ => .pure _

theorem keeps_evaluateEntries {entries : List (Option Term × Term)} :
    L.Keeps (evaluateEntries e known entries) := by
  refine .bind (.foldlM (fun row entry => ?_) entries []) fun _ => .pure _
  obtain ⟨key, value⟩ := entry
  cases key with
  | some key =>
    refine .bind (he _ _) fun _ => .bind (he _ _) fun _ => ?_
    exact .bind keeps_checkKey fun _ => .pure _
  | none =>
    refine .bind (he _ _) fun m => ?_
    split
    · exact .pure _
    · exact keeps_refuse

theorem keeps_evaluateArguments {callee : Meaning} {arguments : List (ArgumentForm × Term)} :
    L.Keeps (evaluateArguments e known callee arguments) := by
  refine .foldlM (fun given argument => ?_) arguments _
  obtain ⟨manner, term⟩ := argument
  refine .bind (he _ _) fun m => ?_
  split
  · exact .pure _
  · exact .pure _
  · exact .bind (keeps_itemsIn he) fun _ => .pure _
  · exact .pure _
  · exact keeps_refuse
  · refine .bind (.mapM (fun entry => ?_) _) fun _ => .pure _
    split
    · exact .pure _
    · exact keeps_refuse
  · exact keeps_refuse

theorem keeps_callClosure {formals : List (ParameterForm × String × Option Meaning)} {body : Term}
    {given : Given} : L.Keeps (callClosure e formals body known given) :=
  .bind (.lift keeps_bindFor) fun _ => he _ _

theorem keeps_callNamed {name : String} {given : Given} :
    L.Keeps (callFunction e known name given) := by
  unfold callFunction
  split
  · exact .bind keeps_settledTerm fun _ => he _ _
  · exact .ite (.pure _) keeps_refuse
  · exact keeps_attributeNamed
  · exact keeps_tryCatch keeps_attributeNamed fun _ => .ite (.pure _) keeps_throw
  · refine keeps_tryCatch (.bind keeps_attributeNamed fun _ => .pure _) fun _ => ?_
    exact .ite (.pure _) keeps_throw
  · exact keeps_settled

theorem keeps_collectStreams {callee : Meaning} {given : Given} :
    L.Keeps (collectStreams e callee given) := by
  refine .ite (.bind (.mapM (fun m => ?_) given.values) fun _ => .pure _) (.pure _)
  split
  · exact .bind (keeps_itemsIn he) fun _ => .pure _
  · exact .pure _

theorem keeps_callMeaning {callee : Meaning} {given : Given} :
    L.Keeps (call e known callee given) := by
  refine .bind (keeps_collectStreams he) fun given => ?_
  split
  · split
    · exact keeps_settled
    · exact keeps_callClass
  · split
    · exact keeps_settled
    · exact keeps_callClass
  · exact he _ _
  · exact keeps_refuse
  · exact keeps_refuse
  · exact keeps_callNamed he
  · exact keeps_callMethod
  · exact keeps_callAttached
  · exact keeps_callDetached
  · exact keeps_callClosure he
  · exact .ite (.pure _) keeps_settled
  · exact keeps_settled

theorem keeps_evaluateJunction {all : Bool} (terms : List Term) :
    L.Keeps (evaluateJunction e known all terms) := by
  induction terms with
  | nil => exact .pure _
  | cons term rest ih =>
    cases rest with
    | nil => exact he _ _
    | cons next rest => exact .bind (he _ _) fun _ => .ite ih (.pure _)

theorem keeps_evaluateChain {first : Meaning} (rest : List (Relation × Term)) :
    L.Keeps (evaluateChain e known first rest) := by
  induction rest generalizing first with
  | nil => exact .pure _
  | cons link rest ih =>
    refine .bind (he _ _) fun second => .bind keeps_settled fun _ => ?_
    exact .ite ih (.pure _)

theorem keeps_evaluateEnd {bound : Option Term} : L.Keeps (evaluateEnd e known bound) := by
  cases bound with
  | some term => exact he _ _
  | none => exact .pure _

/-- One rule for each kind of term. -/
theorem keeps_step (term : Term) : L.Keeps (step e known term) := by
  cases term with
  | constant c => exact .pure _
  | name s => exact keeps_meaningOf
  | formatted pieces => exact .bind (keeps_evaluatePieces he pieces) fun _ => .pure _
  | display kind row => exact keeps_evaluateDisplay he
  | dict row => exact keeps_evaluateEntries he
  | spread of => exact he _ _
  | member of name => exact .bind (he _ _) fun _ => .lift keeps_member
  | index of argument => exact .bind (he _ _) fun _ => .bind (he _ _) fun _ => keeps_settledTerm
  | slice first last step =>
    refine .bind (keeps_evaluateEnd he) fun _ => .bind (keeps_evaluateEnd he) fun _ => ?_
    exact .bind (keeps_evaluateEnd he) fun _ => .pure _
  | call callee arguments =>
    refine .bind (he _ _) fun _ => .bind (keeps_evaluateArguments he) fun _ => ?_
    exact keeps_callMeaning he
  | not of => exact .bind (he _ _) fun _ => .pure _
  | unary op of => exact .bind (he _ _) fun _ => keeps_settledTerm
  | binary op first second =>
    exact .bind (he _ _) fun _ => .bind (he _ _) fun _ => keeps_settledTerm
  | junction all terms => exact keeps_evaluateJunction he terms
  | comparison first rest =>
    exact .bind (he _ _) fun _ => .bind (keeps_evaluateChain he rest) fun _ => .pure _
  | choice test yes no => exact .bind (he _ _) fun _ => .ite (he _ _) (he _ _)
  | lambda formals body =>
    refine .bind (.mapM (fun formal => ?_) formals) fun _ => .pure _
    exact .bind (.optionMapM (he _) _) fun _ => .pure _
  | assign name value => exact .bind (he _ _) fun _ => .bind keeps_keep fun _ => .pure _
  | comprehension collecting key element clauses => exact keeps_comprehend he
  | pause value => exact .pure _

end Rules

/-- By induction on the depth that is left. -/
theorem steady_evaluator (fuel : Nat) : (evaluator fuel).Steady L := by
  induction fuel with
  | zero => exact fun _ _ => keeps_settledTerm
  | succ fuel ih => exact fun _ term => keeps_step ih term

theorem keeps_hintOf {text : String} : L.Keeps (hintOf text) :=
  .bind keeps_settledTerm fun _ => .bind (steady_evaluator maxDepth _ _) fun _ => .pure _

end RequestRouter.Hint
