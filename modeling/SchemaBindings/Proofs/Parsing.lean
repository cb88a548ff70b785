import SchemaBindings.Generation.Run
import SchemaBindings.Proofs.Values

/-!
# Values that are read have distinct keys

A reader of a table puts each key in its place once: a key that comes again replaces the
value and keeps the place. So no object of a value that has been read from a text holds
a key twice, at any depth, and this is what the schemas have from which the services
read theirs. What a step of reading gives is described by a condition on its result
alone; the places and the text that is left do not matter.
-/
namespace SchemaBindings

namespace Json

namespace Decoder

variable {α β : Type}

/-- Whenever a step of reading succeeds, its result is good. -/
def Gives (good : α → Prop) (decoder : Decoder α) : Prop :=
  ∀ source value rest, decoder source = .ok (value, rest) → good value

/-- A step that reads nothing gives its value. -/
theorem gives_pure {good : α → Prop} {value : α} (holds : good value) :
    Gives good (pure value) := by
  intro source result rest ended
  obtain ⟨rfl, -⟩ := Prod.mk.inj (Except.ok.inj ended)
  exact holds

/-- A step gives what the last of its parts gives for the results of the first. -/
theorem gives_bind {passed : α → Prop} {good : β → Prop} {first : Decoder α}
    {next : α → Decoder β} (given : Gives passed first)
    (later : ∀ value, passed value → Gives good (next value)) : Gives good (first >>= next) := by
  intro source result rest ended
  change (first source >>= fun reached => next reached.1 reached.2) = _ at ended
  cases read : first source with
  | error error =>
    rw [read] at ended
    contradiction
  | ok reached =>
    obtain ⟨value, between⟩ := reached
    rw [read] at ended
    exact later value (given source value between read) between result rest ended

/-- What the first part of a step gives may not matter. -/
theorem gives_after {good : β → Prop} {first : Decoder α} {next : α → Decoder β}
    (later : ∀ value, Gives good (next value)) : Gives good (first >>= next) := by
  have given : Gives (fun _ => True) first := fun _ _ _ _ => trivial
  exact gives_bind given fun value _ => later value

/-- A step that fails gives nothing. -/
theorem gives_failPeeked {good : α → Prop} (fault : ReadFault) : Gives good (failPeeked fault) := by
  intro source value rest ended
  contradiction

/-- A fault at the place itself gives no value, so that every value it gives is good. -/
theorem gives_failHere {good : α → Prop} (fault : ReadFault) : Gives good (failHere fault) := by
  intro source value rest ended
  contradiction

/-- The path to a value does not change what is given. -/
theorem gives_within {good : α → Prop} {decoder : Decoder α} (given : Gives good decoder)
    (segment : Segment) : Gives good (within segment decoder) := by
  intro source value rest ended
  rw [within] at ended
  split at ended
  case h_1 result read =>
    obtain rfl := Except.ok.inj ended
    exact given source value rest read
  case h_2 => contradiction

/-- A list is read item by item. -/
theorem gives_items {good : α → Prop} {item : Decoder α} (given : Gives good item)
    (bound index : Nat) : Gives (∀ value ∈ ·, good value) (items item bound index) := by
  induction bound generalizing index with
  | zero => exact gives_failHere _
  | succ bound inductionHypothesis =>
    refine gives_after fun more => ?_
    cases more with
    | false => exact gives_pure (by simp)
    | true =>
      refine gives_bind (gives_within given _) fun value holds => ?_
      refine gives_bind (inductionHypothesis (index + 1)) fun values later => ?_
      exact gives_pure (List.forall_mem_cons.mpr ⟨holds, later⟩)

/-- Fields are read one by one. -/
theorem gives_fields {good : α → Prop} {value : Decoder α} (given : Gives good value)
    (bound : Nat) (first : Bool) :
    Gives (∀ field ∈ ·, good (Prod.snd field)) (fields value bound first) := by
  induction bound generalizing first with
  | zero => exact gives_failHere _
  | succ bound inductionHypothesis =>
    refine gives_after fun next => ?_
    cases next with
    | none => exact gives_pure (by simp)
    | some key =>
      refine gives_after fun _ => ?_
      refine gives_bind (gives_within given _) fun read holds => ?_
      refine gives_bind (inductionHypothesis false) fun fields later => ?_
      exact gives_pure (List.forall_mem_cons.mpr ⟨holds, later⟩)

/-- A value that is read has distinct keys. -/
theorem gives_any (depth : Nat) : Gives Json.Distinct (any depth) := by
  induction depth with
  | zero => exact gives_failPeeked _
  | succ depth inductionHypothesis =>
    rw [any]
    refine gives_after fun next => ?_
    split
    case h_1 => exact gives_failPeeked _
    case h_2 =>
      exact gives_after fun _ => gives_after fun _ => gives_pure (distinct_of_tables_eq_nil rfl)
    case h_3 =>
      exact gives_after fun _ => gives_after fun _ => gives_pure (distinct_of_tables_eq_nil rfl)
    case h_4 =>
      exact gives_after fun _ => gives_after fun _ => gives_pure (distinct_of_tables_eq_nil rfl)
    case h_5 =>
      exact gives_after fun _ => gives_after fun _ => gives_pure (distinct_of_tables_eq_nil rfl)
    case h_6 =>
      refine gives_after fun _ => gives_after fun _ => ?_
      refine gives_bind (gives_items inductionHypothesis _ 0) fun values distinct => ?_
      exact gives_after fun _ => gives_pure ((distinct_array values).mpr distinct)
    case h_7 =>
      refine gives_after fun _ => gives_after fun _ => ?_
      refine gives_bind (gives_fields inductionHypothesis _ true) fun pairs distinct => ?_
      refine gives_after fun _ => gives_pure ((distinct_object _).mpr ?_)
      obtain ⟨once, origin⟩ := Table.ofPairs_spec pairs
      exact ⟨once, fun field member => distinct field (origin field member)⟩
    case h_8 =>
      split
      · exact gives_after fun _ => gives_pure (distinct_of_tables_eq_nil rfl)
      · exact gives_failPeeked _

end Decoder

/-- A text that is one value is read as a value with distinct keys. -/
theorem parseWhole_distinct {text : String} {value : Json} (read : parseWhole text = .ok value) :
    value.Distinct := by
  rw [parseWhole] at read
  split at read
  case h_1 => contradiction
  case h_2 found source started =>
    have distinct := Decoder.gives_any _ _ _ _ started
    dsimp only at read
    split at read
    · obtain rfl := Except.ok.inj read
      exact distinct
    · contradiction

end Json

/-- After an action that has succeeded the next one goes on. -/
theorem ran_ok {ε σ α β : Type} {first : ExceptT ε (StateM σ) α}
    {next : α → ExceptT ε (StateM σ) β} {state between : σ} {value : α}
    (ran : first.run.run state = (.ok value, between)) :
    (first >>= next).run.run state = (next value).run.run between := by
  rw [ExceptT.run_bind, StateT.run_bind, ran]
  rfl

/-- After an action that has failed there is no other. -/
theorem ran_error {ε σ α β : Type} {first : ExceptT ε (StateM σ) α}
    {next : α → ExceptT ε (StateM σ) β} {state between : σ} {error : ε}
    (ran : first.run.run state = (.error error, between)) :
    (first >>= next).run.run state = (.error error, between) := by
  rw [ExceptT.run_bind, StateT.run_bind, ran]
  rfl

/-- An action that is followed by another ends with its fault or goes on. -/
theorem ran_cases {ε σ α β : Type} {first : ExceptT ε (StateM σ) α}
    {next : α → ExceptT ε (StateM σ) β} {state final : σ} {result : Except ε β}
    (ended : (first >>= next).run.run state = (result, final)) :
    (∃ error, first.run.run state = (.error error, final) ∧ result = .error error) ∨
      ∃ value between, first.run.run state = (.ok value, between) ∧
        (next value).run.run between = (result, final) := by
  rcases ran : first.run.run state with ⟨outcome, between⟩
  cases outcome with
  | ok value => exact .inr ⟨value, between, rfl, (ran_ok ran).symm.trans ended⟩
  | error error =>
    obtain ⟨rfl, rfl⟩ := Prod.mk.inj ((ran_error ran).symm.trans ended)
    exact .inl ⟨error, rfl, rfl⟩

/-- An action that has succeeded has succeeded in its first part and then in the rest. -/
theorem ran_bind {ε σ α β : Type} {first : ExceptT ε (StateM σ) α}
    {next : α → ExceptT ε (StateM σ) β} {state final : σ} {result : β}
    (ended : (first >>= next).run.run state = (.ok result, final)) :
    ∃ value between, first.run.run state = (.ok value, between) ∧
      (next value).run.run between = (.ok result, final) := by
  obtain ⟨_, _, failed⟩ | went := ran_cases ended
  · contradiction
  · exact went

/-- A schema that a service reads has distinct keys, wherever it comes from. -/
theorem SchemaSource.extract_distinct {source : SchemaSource} {typeName : String} {raw : Json}
    {files after : Files} (given : (source.extract typeName).run.run files = (.ok raw, after)) :
    raw.Distinct := by
  have parsed {program text : String} {between : Files}
      (read : (liftExcept (parsedOutput program text) : FileAction RunError Json).run.run between =
        (.ok raw, after)) : raw.Distinct := by
    rw [parsedOutput] at read
    have result := congrArg Prod.fst read
    split at result
    case h_1 value whole =>
      obtain rfl : value = raw := Except.ok.inj result
      exact Json.parseWhole_distinct whole
    case h_2 => contradiction
  cases source with
  | file path =>
    obtain ⟨seen, between, -, given⟩ := ran_bind given
    split at given
    case isTrue =>
      split at given
      case h_1 text read => exact parsed given
      case h_2 =>
        have failed := congrArg Prod.fst given
        contradiction
    case isFalse =>
      have failed := congrArg Prod.fst given
      contradiction
  | command words =>
    cases words with
    | nil =>
      have failed := congrArg Prod.fst given
      contradiction
    | cons program arguments =>
      obtain ⟨text, between, -, given⟩ := ran_bind given
      exact parsed given

/-- An action on the files ends in a run as it ends by itself, and nothing is noted. -/
theorem Run.onFiles_ran {α : Type} {action : FileAction RunError α} {world after : World}
    {result : Except RunError α} (ended : (Run.onFiles action).run.run world = (result, after)) :
    action.run.run world.files = (result, after.files) ∧ after.effects = world.effects := by
  rcases acted : action.run.run world.files with ⟨outcome, files⟩
  change (Run.ofExcept (action.run.run world.files).1).run.run
    { world with files := (action.run.run world.files).2 } = _ at ended
  rw [acted] at ended
  cases outcome with
  | error error =>
    obtain ⟨rfl, rfl⟩ := Prod.mk.inj ended
    exact ⟨rfl, rfl⟩
  | ok value =>
    obtain ⟨rfl, rfl⟩ := Prod.mk.inj ended
    exact ⟨rfl, rfl⟩

/-- Whether the documents of services have distinct keys. -/
def Services.GivesDistinct (services : Services) : Prop :=
  ∀ typeName files raw after, (services.extract typeName).run.run files = (.ok raw, after) →
    raw.Distinct

/-- The services of settings read their documents, and so these have distinct keys. -/
theorem Settings.services_givesDistinct (settings : Settings) (source : SchemaSource) :
    (settings.services source).GivesDistinct :=
  fun _ _ _ _ given => SchemaSource.extract_distinct given

/-- A run is given a document with distinct keys if its services have no others. -/
theorem Run.extract_distinct {settings : Settings} {services : Services} {raw : Json}
    {world after : World} (honest : services.GivesDistinct)
    (extracted : (Run.extract settings services).run.run world = (.ok raw, after)) :
    raw.Distinct := by
  obtain ⟨_, noted, -, extracted⟩ := ran_bind extracted
  exact honest _ _ _ _ (Run.onFiles_ran extracted).1

end SchemaBindings
