import DataAccess.Files.Dialogue
import Mathlib.Data.List.Basic

/-!
# Dialogues that take turns

What a dialogue ends with follows from the answers to its own operations (`Dialogue.Follows`). When
dialogues take turns, the operations of all of them make one history, performed one after another on
the files (`Performs`), and each dialogue follows its own part of it (`Interleaves.follows`). The
schedules of `Dialogue.runAll` make all such histories and no others (`interleaves_runAll`,
`Interleaves.scheduled`). A dialogue whose operations leave the files alone can be left out of a
history (`Interleaves.without`).
-/

namespace DataAccess.Files

/-- An operation with its answer. -/
structure Exchange where
  operation : Operation
  answer : operation.Answer

/-- The exchanges of the dialogue at a position. -/
def exchangesAt (position : Nat) (history : List (Nat × Exchange)) : List Exchange :=
  (history.filter fun entry => entry.1 == position).map Prod.snd

@[simp]
theorem exchangesAt_nil (position : Nat) : exchangesAt position [] = [] := rfl

/-- An exchange belongs to one dialogue of the history. -/
theorem exchangesAt_cons (position turn : Nat) (exchange : Exchange)
    (history : List (Nat × Exchange)) :
    exchangesAt position ((turn, exchange) :: history) =
      if turn = position then exchange :: exchangesAt position history
      else exchangesAt position history := by
  by_cases same : turn = position <;> simp [exchangesAt, same]

/-- The exchanges of a dialogue are those under its position. -/
theorem mem_exchangesAt {position : Nat} {exchange : Exchange}
    {history : List (Nat × Exchange)} :
    exchange ∈ exchangesAt position history ↔ (position, exchange) ∈ history := by
  simp only [exchangesAt, List.mem_map, List.mem_filter, beq_iff_eq]
  constructor
  · rintro ⟨⟨turn, _⟩, ⟨member, rfl⟩, rfl⟩
    exact member
  · exact fun member => ⟨_, ⟨member, rfl⟩, rfl⟩

/-- The exchanges are made one after another, from one state of the files to another. -/
inductive Performs {World : Type} (files : FileSystem (StateM World)) :
    World → List (Nat × Exchange) → World → Prop
  | nil (world : World) : Performs files world [] world
  | cons {before between after : World} (position : Nat) (exchange : Exchange)
      {history : List (Nat × Exchange)}
      (now : exchange.operation.perform files before = (exchange.answer, between))
      (later : Performs files between history after) :
      Performs files before ((position, exchange) :: history) after

/-- The files after a history are the ones that its operations leave. -/
theorem Performs.unique {World : Type} {files : FileSystem (StateM World)}
    {before after other : World} {history : List (Nat × Exchange)}
    (first : Performs files before history after) (second : Performs files before history other) :
    after = other := by
  induction first with
  | nil world =>
      cases second
      rfl
  | cons position exchange now later ih =>
      cases second with
      | cons _ _ again rest =>
          rw [now] at again
          exact ih ((Prod.mk.inj again).2 ▸ rest)

/-- A history in two parts passes through a world between them. -/
theorem Performs.append {World : Type} {files : FileSystem (StateM World)} {before after : World}
    {early late : List (Nat × Exchange)} (performs : Performs files before (early ++ late) after) :
    ∃ between, Performs files before early between ∧ Performs files between late after := by
  induction early generalizing before with
  | nil => exact ⟨before, .nil before, performs⟩
  | cons entry rest ih =>
      cases performs with
      | cons position exchange now later =>
          obtain ⟨between, first, second⟩ := ih later
          exact ⟨between, .cons position exchange now first, second⟩

/-- Where the exchanges at a position end with one, that one is its last in the history. -/
theorem exists_of_exchangesAt_concat {position : Nat} {history : List (Nat × Exchange)}
    {first : List Exchange} {last : Exchange}
    (shape : exchangesAt position history = first ++ [last]) :
    ∃ earlier later, history = earlier ++ (position, last) :: later ∧
      exchangesAt position later = [] := by
  induction history generalizing first with
  | nil => simp at shape
  | cons entry rest ih =>
      obtain ⟨turn, exchange⟩ := entry
      rw [exchangesAt_cons] at shape
      split at shape
      · next same =>
          subst same
          cases first with
          | nil =>
              obtain ⟨rfl, done⟩ := List.cons.inj shape
              exact ⟨[], rest, rfl, done⟩
          | cons _ first =>
              obtain ⟨earlier, later, rfl, done⟩ := ih (List.cons.inj shape).2
              exact ⟨(turn, exchange) :: earlier, later, rfl, done⟩
      · obtain ⟨earlier, later, rfl, done⟩ := ih shape
        exact ⟨(turn, exchange) :: earlier, later, rfl, done⟩

namespace Dialogue

variable {α β : Type}

/-- The dialogue asks for the operations of the exchanges, one after another, and ends with the
value when they are answered like that. -/
inductive Follows : Dialogue α → List Exchange → α → Prop
  | ended (value : α) : Follows (ended value) [] value
  | ask {operation : Operation} {next : operation.Answer → Dialogue α} (answer : operation.Answer)
      {exchanges : List Exchange} {value : α} (later : Follows (next answer) exchanges value) :
      Follows (ask operation next) (⟨operation, answer⟩ :: exchanges) value

/-- **A dialogue knows the files by its answers only:** what it ends with follows from them. -/
theorem Follows.unique {dialogue : Dialogue α} {exchanges : List Exchange} {value other : α}
    (first : Follows dialogue exchanges value) (second : Follows dialogue exchanges other) :
    value = other := by
  induction first with
  | ended value =>
      cases second
      rfl
  | ask answer later ih =>
      cases second with
      | ask _ again => exact ih again

/-- A dialogue that goes on asks its first operation first. -/
theorem ask_bind (operation : Operation) (next : operation.Answer → Dialogue α)
    (later : α → Dialogue β) :
    (ask operation next >>= later) = ask operation fun answer => next answer >>= later := rfl

/-- A dialogue that is over goes on at once. -/
theorem ended_bind (value : α) (later : α → Dialogue β) :
    (Dialogue.ended value >>= later) = later value := rfl

/-- A dialogue that is over has no exchanges. -/
theorem follows_ended {value : α} {exchanges : List Exchange} {result : α} :
    Follows (.ended value) exchanges result ↔ exchanges = [] ∧ result = value := by
  constructor
  · rintro ⟨⟩
    exact ⟨rfl, rfl⟩
  · rintro ⟨rfl, rfl⟩
    exact .ended _

/-- The exchanges of one dialogue after another are the ones of the first, followed by the ones of
the second. -/
theorem follows_bind {dialogue : Dialogue α} {later : α → Dialogue β} {exchanges : List Exchange}
    {result : β} :
    Follows (dialogue >>= later) exchanges result ↔
      ∃ first rest value, exchanges = first ++ rest ∧ Follows dialogue first value ∧
        Follows (later value) rest result := by
  induction dialogue generalizing exchanges with
  | ended value =>
      rw [ended_bind]
      constructor
      · exact fun follows => ⟨[], exchanges, value, rfl, .ended value, follows⟩
      · rintro ⟨_, rest, _, rfl, ⟨⟩, follows⟩
        exact follows
  | ask operation next ih =>
      rw [ask_bind]
      constructor
      · rintro (_ | ⟨answer, follows⟩)
        obtain ⟨first, rest, value, rfl, now, then'⟩ := (ih answer).mp follows
        exact ⟨_ :: first, rest, value, rfl, .ask answer now, then'⟩
      · rintro ⟨_, rest, value, rfl, _ | ⟨answer, now⟩, then'⟩
        exact .ask answer ((ih answer).mpr ⟨_, rest, value, rfl, now, then'⟩)

/-- Changing the result of a dialogue leaves its exchanges alone. -/
theorem follows_map {dialogue : Dialogue α} {change : α → β} {exchanges : List Exchange}
    {result : β} :
    Follows (change <$> dialogue) exchanges result ↔
      ∃ value, Follows dialogue exchanges value ∧ result = change value := by
  have shape : change <$> dialogue = (dialogue >>= fun value => .ended (change value)) := rfl
  rw [shape, follows_bind]
  constructor
  · rintro ⟨first, _, value, rfl, follows, ⟨⟩⟩
    exact ⟨value, by rwa [List.append_nil], rfl⟩
  · rintro ⟨value, follows, rfl⟩
    exact ⟨exchanges, [], value, (List.append_nil _).symm, follows, .ended _⟩

end Dialogue

/-- Dialogues that are in flight side by side take turns until all are over, `width` successive ones
at most at once. The history has the exchanges with the positions of their dialogues. -/
inductive Interleaves {World α : Type} (files : FileSystem (StateM World)) (width : Nat) :
    List (Dialogue α) → World → List (Nat × Exchange) → List α → World → Prop
  | ended (values : List α) (world : World) :
      Interleaves files width (values.map .ended) world [] values world
  | turn {dialogues : List (Dialogue α)} {position : Nat} {operation : Operation}
      {next : operation.Answer → Dialogue α} {answer : operation.Answer}
      {before between after : World} {history : List (Nat × Exchange)} {values : List α}
      (found : dialogues[position]? = some (.ask operation next))
      (inFlight : Dialogue.isInFlight width dialogues position = true)
      (now : operation.perform files before = (answer, between))
      (later : Interleaves files width (dialogues.set position (next answer)) between history
        values after) :
      Interleaves files width dialogues before ((position, ⟨operation, answer⟩) :: history) values
        after

namespace Interleaves

variable {World α : Type} {files : FileSystem (StateM World)} {width : Nat}
  {dialogues : List (Dialogue α)} {before after : World} {history : List (Nat × Exchange)}
  {values : List α}

/-- A history of turns is performed on the files. -/
theorem performs (runs : Interleaves files width dialogues before history values after) :
    Performs files before history after := by
  induction runs with
  | ended values world => exact .nil world
  | turn found inFlight now later ih => exact .cons _ ⟨_, _⟩ now ih

/-- Each dialogue has a result. -/
theorem length_eq (runs : Interleaves files width dialogues before history values after) :
    values.length = dialogues.length := by
  induction runs with
  | ended values world => rw [List.length_map]
  | turn found inFlight now later ih => rwa [List.length_set] at ih

/-- Only dialogues that there are take turns. -/
theorem lt_length (runs : Interleaves files width dialogues before history values after) :
    ∀ entry ∈ history, entry.1 < dialogues.length := by
  induction runs with
  | ended values world => exact nofun
  | turn found inFlight now later ih =>
      rw [List.length_set] at ih
      exact List.forall_mem_cons.mpr ⟨(List.getElem?_eq_some_iff.mp found).1, ih⟩

/-- **Each dialogue follows its own part of the history.** -/
theorem follows (runs : Interleaves files width dialogues before history values after)
    {position : Nat} {dialogue : Dialogue α} (found : dialogues[position]? = some dialogue) :
    ∃ value, values[position]? = some value ∧
      dialogue.Follows (exchangesAt position history) value := by
  induction runs generalizing dialogue with
  | ended values world =>
      obtain ⟨value, here, rfl⟩ := Option.map_eq_some_iff.mp (List.getElem?_map.symm.trans found)
      exact ⟨value, here, .ended value⟩
  | @turn dialogues turn operation next answer before between after history values asked inFlight
      now later ih =>
      rw [exchangesAt_cons]
      by_cases same : turn = position
      · subst same
        rw [asked] at found
        cases found
        have inside := (List.getElem?_eq_some_iff.mp asked).1
        obtain ⟨value, here, follows⟩ := ih (List.getElem?_set_self inside)
        exact ⟨value, here, by rw [if_pos rfl]; exact .ask answer follows⟩
      · rw [if_neg same]
        exact ih (by rwa [List.getElem?_set_ne same])

/-- More dialogues are in flight when one more is over. -/
theorem isInFlight_set_ended {position turn : Nat} (value : α)
    (inFlight : Dialogue.isInFlight width dialogues turn = true) :
    Dialogue.isInFlight width (dialogues.set position (.ended value)) turn = true := by
  have longer (dialogues : List (Dialogue α)) (position : Nat) :
      (dialogues.takeWhile Dialogue.hasEnded).length ≤
        ((dialogues.set position (.ended value)).takeWhile Dialogue.hasEnded).length := by
    induction dialogues generalizing position with
    | nil => exact Nat.le_refl _
    | cons first rest ih =>
        cases position with
        | zero => cases first <;> simp [List.takeWhile_cons, Dialogue.hasEnded]
        | succ position =>
            cases first <;> simp [List.takeWhile_cons, Dialogue.hasEnded, ih position]
  rw [Dialogue.isInFlight, decide_eq_true_eq] at inFlight ⊢
  exact Nat.lt_of_lt_of_le inFlight (Nat.add_le_add_right (longer dialogues position) width)

/-- **A dialogue whose operations leave the files alone can be left out:** the others have the same
exchanges and end with the same values, and the files are the same afterwards. -/
theorem without (runs : Interleaves files width dialogues before history values after)
    {position : Nat} (value : α)
    (alone : ∀ earlier exchange later between,
      history = earlier ++ (position, exchange) :: later →
        Performs files before earlier between →
          (exchange.operation.perform files between).2 = between) :
    Interleaves files width (dialogues.set position (.ended value)) before
      (history.filter fun entry => entry.1 != position) (values.set position value) after := by
  induction runs with
  | ended values world =>
      rw [← List.map_set]
      exact .ended _ _
  | @turn dialogues turn operation next answer before between after history values asked inFlight
      now later ih =>
      have rest := ih fun earlier exchange late state shape performs =>
        alone ((turn, ⟨operation, answer⟩) :: earlier) exchange late state
          (congrArg (List.cons _) shape) (.cons turn _ now performs)
      by_cases same : turn = position
      · subst same
        have still : between = before := by
          have unmoved := alone [] ⟨operation, answer⟩ history before rfl (.nil before)
          rwa [now] at unmoved
        rw [List.set_set, still] at rest
        rwa [List.filter_cons_of_neg (by simp)]
      · rw [List.set_comm _ _ same] at rest
        rw [List.filter_cons_of_pos (by simpa using same)]
        refine .turn ?_ (isInFlight_set_ended value inFlight) now rest
        rwa [List.getElem?_set_ne (Ne.symm same)]

end Interleaves

namespace Dialogue

variable {World α β : Type} {files : FileSystem (StateM World)} {width : Nat}

section Finishing

variable {m : Type → Type} [Monad m] (system : FileSystem m)

@[simp]
theorem finish_pure (value : α) : (pure value : Dialogue α).finish system = pure value := rfl

/-- A condition on which dialogue to hold does not depend on how it is held. -/
@[simp]
theorem finish_ite (condition : Prop) [Decidable condition] (first second : Dialogue α) :
    (if condition then first else second).finish system =
      if condition then first.finish system else second.finish system := by
  split <;> rfl

variable [LawfulMonad m]

/-- A dialogue that goes on is finished in two parts. -/
@[simp]
theorem finish_bind (dialogue : Dialogue α) (later : α → Dialogue β) :
    (dialogue >>= later).finish system =
      dialogue.finish system >>= fun value => (later value).finish system := by
  induction dialogue with
  | ended value => rw [ended_bind, finish, pure_bind]
  | ask operation next ih =>
      rw [ask_bind, finish, finish, bind_assoc]
      exact congrArg _ (funext ih)

/-- Changing the result of a dialogue changes what it is finished with. -/
@[simp]
theorem finish_map (change : α → β) (dialogue : Dialogue α) :
    (change <$> dialogue).finish system = change <$> dialogue.finish system := by
  have shape : change <$> dialogue = (dialogue >>= fun value => pure (change value)) := rfl
  rw [shape, finish_bind, map_eq_pure_bind]
  rfl

@[simp]
theorem finish_makeDirectory (path : String) :
    (fileSystem.makeDirectory path).finish system = system.makeDirectory path := bind_pure _

@[simp]
theorem finish_isDirectory (path : String) :
    (fileSystem.isDirectory path).finish system = system.isDirectory path := bind_pure _

@[simp]
theorem finish_writeText (path text : String) :
    (fileSystem.writeText path text).finish system = system.writeText path text := bind_pure _

/-- Making sure of a directory is the same in a dialogue and directly. -/
@[simp]
theorem finish_ensureDirectory (path : String) :
    (fileSystem.ensureDirectory path).finish system = system.ensureDirectory path := by
  rw [FileSystem.ensureDirectory, FileSystem.ensureDirectory, finish_bind, finish_makeDirectory]
  refine congrArg _ (funext fun made => ?_)
  cases made <;> simp

/-- Making sure of directories is the same in a dialogue and directly. -/
@[simp]
theorem finish_ensureAlong (paths : List String) :
    (fileSystem.ensureAlong paths).finish system = system.ensureAlong paths := by
  induction paths with
  | nil => rfl
  | cons path ancestors ih =>
      rw [FileSystem.ensureAlong, FileSystem.ensureAlong, finish_bind, finish_makeDirectory]
      refine congrArg _ (funext fun made => ?_)
      split
      · rfl
      · rw [finish_bind, ih]
        refine congrArg _ (funext fun ensured => ?_)
        cases ensured <;> simp
      · simp

/-- **A store comes to the same, whether it is done or asked for and then done.** -/
@[simp]
theorem finish_store (directory path text : String) :
    (fileSystem.store directory path text).finish system =
      system.store directory path text := by
  rw [FileSystem.store, FileSystem.store, finish_bind, FileSystem.ensureDirectories,
    FileSystem.ensureDirectories, finish_ite, finish_ensureAlong, finish_pure]
  refine congrArg _ (funext fun ensured => ?_)
  cases ensured <;> simp

end Finishing

/-- The first dialogue that has not ended is in flight. -/
theorem isInFlight_after (wide : 0 < width) (done : List α) (dialogues : List (Dialogue α)) :
    isInFlight width (done.map ended ++ dialogues) done.length = true := by
  have allEnded : ∀ dialogue ∈ done.map (ended : α → Dialogue α), hasEnded dialogue = true := by
    intro dialogue member
    obtain ⟨value, -, rfl⟩ := List.mem_map.mp member
    rfl
  rw [isInFlight, decide_eq_true_eq, List.takeWhile_append_of_pos allEnded, List.length_append,
    List.length_map, Nat.add_assoc]
  exact Nat.lt_add_of_pos_right (Nat.add_pos_right _ wide)

/-- A dialogue behind ones that are over is finished by turns of its own. -/
theorem interleaves_finish {values : List α} {rest : List (Dialogue α)} (wide : 0 < width)
    (done : List α) (dialogue : Dialogue α) {before after : World}
    (later : ∃ history, Interleaves files width
      ((done ++ [(dialogue.finish files before).1]).map ended ++ rest)
      (dialogue.finish files before).2 history values after) :
    ∃ history, Interleaves files width (done.map ended ++ dialogue :: rest) before history values
      after := by
  induction dialogue generalizing before with
  | ended value =>
      rw [List.map_append, List.append_assoc] at later
      exact later
  | ask operation next ih =>
      rcases now : operation.perform files before with ⟨answer, between⟩
      have finishes : (ask operation next).finish files before =
          (next answer).finish files between := by
        simp only [finish, Bind.bind, StateT.bind, now]
      rw [finishes] at later
      obtain ⟨history, runs⟩ := ih answer later
      have found : (done.map ended ++ ask operation next :: rest)[done.length]? =
          some (ask operation next) := by
        simp
      have moved : Interleaves files width
          ((done.map ended ++ ask operation next :: rest).set done.length (next answer)) between
            history values after := by
        simpa using runs
      exact ⟨_, .turn found (isInFlight_after wide done _) now moved⟩

/-- Finishing all dialogues from the first on is one way to take turns. -/
theorem interleaves_finishAll (wide : 0 < width) (done : List α) (dialogues : List (Dialogue α))
    (world : World) :
    ∃ history, Interleaves files width (done.map ended ++ dialogues) world history
      (done ++ (finishAll files dialogues world).1) (finishAll files dialogues world).2 := by
  induction dialogues generalizing done world with
  | nil =>
      have runs : Interleaves files width (done.map ended) world [] done world := .ended done world
      refine ⟨[], ?_⟩
      rw [List.append_nil]
      exact (List.append_nil done).symm ▸ runs
  | cons dialogue rest ih =>
      refine interleaves_finish wide done dialogue ?_
      obtain ⟨history, runs⟩ := ih (done ++ [(dialogue.finish files world).1])
        (dialogue.finish files world).2
      refine ⟨history, ?_⟩
      rwa [List.append_assoc] at runs

/-- A turn of a dialogue that is in flight performs its next operation. -/
theorem runAll_turn {dialogues : List (Dialogue α)} {position : Nat} {operation : Operation}
    {next : operation.Answer → Dialogue α} {answer : operation.Answer} {before between : World}
    (found : dialogues[position]? = some (ask operation next))
    (inFlight : isInFlight width dialogues position = true)
    (now : operation.perform files before = (answer, between)) (schedule : List Nat) :
    runAll files width (position :: schedule) dialogues before =
      runAll files width schedule (dialogues.set position (next answer)) between := by
  simp only [runAll, interleave, advance, found, inFlight, ↓reduceIte, Bind.bind, StateT.bind, now]
  rfl

/-- A turn of a dialogue that is over or has to wait is passed over. -/
theorem runAll_passed {dialogues : List (Dialogue α)} {position : Nat}
    (passed : ∀ operation next, dialogues[position]? = some (ask operation next) →
      isInFlight width dialogues position = false) (schedule : List Nat) :
    runAll files width (position :: schedule) dialogues =
      runAll files width schedule dialogues := by
  have stays : advance files width position dialogues = pure dialogues := by
    rw [advance]
    split
    · next operation next found => rw [passed operation next found]; rfl
    · rfl
  rw [runAll, interleave, stays, pure_bind]
  rfl

/-- **Every schedule makes dialogues take turns.** -/
theorem interleaves_runAll (wide : 0 < width) (schedule : List Nat) (dialogues : List (Dialogue α))
    (world : World) :
    ∃ history, Interleaves files width dialogues world history
      (runAll files width schedule dialogues world).1
      (runAll files width schedule dialogues world).2 := by
  induction schedule generalizing dialogues world with
  | nil => exact interleaves_finishAll wide [] dialogues world
  | cons position schedule ih =>
      by_cases turn : ∃ operation next, dialogues[position]? = some (ask operation next) ∧
          isInFlight width dialogues position = true
      · obtain ⟨operation, next, found, inFlight⟩ := turn
        rcases now : operation.perform files world with ⟨answer, between⟩
        obtain ⟨history, runs⟩ := ih (dialogues.set position (next answer)) between
        rw [runAll_turn found inFlight now]
        exact ⟨_, .turn found inFlight now runs⟩
      · rw [runAll_passed fun operation next found => by
          rw [← Bool.not_eq_true]
          exact fun inFlight => turn ⟨operation, next, found, inFlight⟩]
        exact ih dialogues world

/-- Dialogues that are over have nothing left to finish. -/
theorem finishAll_ended (values : List α) (world : World) :
    finishAll files (values.map ended) world = (values, world) := by
  induction values with
  | nil => rfl
  | cons value rest ih =>
      rw [List.map_cons, finishAll, finish, pure_bind]
      simp only [Bind.bind, StateT.bind, ih]
      rfl

end Dialogue

/-- **All turns that dialogues can take are turns of a schedule.** -/
theorem Interleaves.scheduled {World α : Type} {files : FileSystem (StateM World)} {width : Nat}
    {dialogues : List (Dialogue α)} {before after : World} {history : List (Nat × Exchange)}
    {values : List α} (runs : Interleaves files width dialogues before history values after) :
    Dialogue.runAll files width (history.map Prod.fst) dialogues before = (values, after) := by
  induction runs with
  | ended values world => exact Dialogue.finishAll_ended values world
  | turn found inFlight now later ih =>
      rw [List.map_cons, Dialogue.runAll_turn found inFlight now, ih]

end DataAccess.Files
