import Highlighter.Proofs.Cursor.Operations

/-!
# A cursor as a zipper

A zipper is a text that has been cut in two. An operation moves a piece from the front of the second
part to the end of the first, and which piece that is can be said without an algorithm and without
bytes: a character, the longest prefix of some kind, or the shortest. A cursor that stands behind
whole characters shows a zipper. One operation takes from the cursor just the piece that it takes
from the zipper, so whatever the operations are, the cursor and the zipper stay together, and the
pieces taken between any two moments are what a slice gives between the positions of the cursor at
these moments.
-/

namespace Highlighter

/-- A text that has been cut in two. -/
structure Zipper where
  /-- The characters that have been passed. -/
  before : List Char
  /-- The characters that come next. -/
  after : List Char
deriving DecidableEq, Repr

namespace Cursor

/-- The piece that an operation takes from the front of a text, with what it tells. -/
inductive Operation.Takes (text : List Char) : Operation → List Char → Answer → Prop
  /-- The first character, or nothing at the end. -/
  | bump : Takes text .bump (text.take 1) (.character text.head?)
  /-- The text that has been seen to come next. -/
  | bumpPast {lead : String} : lead.toList <+: text →
      Takes text (.bumpPast lead) lead.toList .done
  /-- The longest prefix for whose characters the predicate holds. -/
  | eatWhile {p : Char → Bool} {taken : List Char} :
      Text.IsLongestPrefix (fun taken => ∀ c ∈ taken, p c) text taken →
      Takes text (.eatWhile p) taken .done
  /-- The longest prefix without a newline. -/
  | eatLine {taken : List Char} : Text.IsLongestPrefix (fun taken => '\n' ∉ taken) text taken →
      Takes text .eatLine taken .done
  /-- The shortest prefix that ends with the terminator. -/
  | eatPast {terminator : String} {taken : List Char} :
      Text.IsShortestPrefix (fun taken => terminator.toList <:+ taken) text taken →
      Takes text (.eatPast terminator) taken (.found true)
  /-- Everything, if the terminator does not occur. -/
  | eatAll {terminator : String} : ¬terminator.toList <:+: text →
      Takes text (.eatPast terminator) text (.found false)

theorem Operation.Takes.unique {text left right : List Char} {operation : Operation}
    {answerLeft answerRight : Answer} (takesLeft : operation.Takes text left answerLeft)
    (takesRight : operation.Takes text right answerRight) :
    left = right ∧ answerLeft = answerRight := by
  have noOccurrence : ∀ {terminator : String} {taken : List Char},
      Text.IsShortestPrefix (fun taken => terminator.toList <:+ taken) text taken →
      ¬¬terminator.toList <:+: text :=
    fun isShortest absent => absent (isShortest.holds.isInfix.trans isShortest.isPrefix.isInfix)
  cases takesLeft with
  | bump => cases takesRight; exact ⟨rfl, rfl⟩
  | bumpPast => cases takesRight; exact ⟨rfl, rfl⟩
  | eatWhile isLeft =>
      cases takesRight with
      | eatWhile isRight => exact ⟨isLeft.unique isRight, rfl⟩
  | eatLine isLeft =>
      cases takesRight with
      | eatLine isRight => exact ⟨isLeft.unique isRight, rfl⟩
  | eatPast isLeft =>
      cases takesRight with
      | eatPast isRight => exact ⟨isLeft.unique isRight, rfl⟩
      | eatAll absent => exact absurd absent (noOccurrence isLeft)
  | eatAll absent =>
      cases takesRight with
      | eatPast isRight => exact absurd absent (noOccurrence isRight)
      | eatAll => exact ⟨rfl, rfl⟩

end Cursor

namespace Zipper

open Cursor (Operation Answer)

/-- Each operation moves the piece that it takes to the part that has been passed. -/
inductive Runs : Zipper → List Operation → List Answer → Zipper → Prop
  | nil (zipper : Zipper) : Runs zipper [] [] zipper
  | cons {before after taken rest : List Char} {operation : Operation} {answer : Answer}
      {operations : List Operation} {answers : List Answer} {last : Zipper} :
      operation.Takes after taken answer → after = taken ++ rest →
      Runs ⟨before ++ taken, rest⟩ operations answers last →
      Runs ⟨before, after⟩ (operation :: operations) (answer :: answers) last

/-- A zipper leaves no choice to its operations. -/
theorem Runs.unique {first leftLast rightLast : Zipper} {operations : List Operation}
    {left right : List Answer} (runsLeft : Runs first operations left leftLast)
    (runsRight : Runs first operations right rightLast) :
    left = right ∧ leftLast = rightLast := by
  induction runsLeft generalizing right with
  | nil =>
      cases runsRight
      exact ⟨rfl, rfl⟩
  | cons takesLeft wholeLeft _ ih =>
      cases runsRight with
      | cons takesRight wholeRight laterRight =>
          rcases takesLeft.unique takesRight with ⟨rfl, rfl⟩
          rw [← List.append_cancel_left (wholeLeft.symm.trans wholeRight)] at laterRight
          rcases ih laterRight with ⟨rfl, rfl⟩
          exact ⟨rfl, rfl⟩

end Zipper

namespace Cursor

/-! ### One operation -/

/-- A cursor moves past the piece that its operation takes from the text behind it. -/
theorem exists_takes (cursor : Cursor) (operation : Operation)
    (fits : operation.Fits cursor.remaining) :
    ∃ taken rest, cursor.remaining = taken ++ rest ∧
      operation.Takes cursor.remaining taken (cursor.perform operation).1 ∧
      (cursor.perform operation).2 = cursor.movePast (taken, rest) := by
  cases operation with
  | bump =>
      cases text : cursor.remaining with
      | nil =>
          have stays : cursor.bump = (none, cursor) := bump_of_isAtEnd text
          refine ⟨[], [], rfl, ?_, ?_⟩
          · rw [perform, stays]
            exact .bump
          · rw [perform, stays, movePast_nil text]
      | cons c rest =>
          have moves := bump_eq text
          refine ⟨[c], rest, rfl, ?_, ?_⟩
          · rw [perform, moves]
            exact .bump
          · rw [perform, moves]
  | bumpPast lead =>
      rcases fits with ⟨rest, whole⟩
      refine ⟨lead.toList, rest, whole.symm, .bumpPast ⟨rest, whole⟩, ?_⟩
      rw [perform, bumpPast, ← whole, ← String.length_toList, List.drop_left]
  | eatWhile p =>
      have isLongest := Text.isLongestPrefix_takeWhile (fun _ => Iff.rfl) cursor.remaining (p := p)
      exact ⟨_, _, List.takeWhile_append_dropWhile.symm, .eatWhile isLongest, rfl⟩
  | eatLine =>
      have noNewline : ∀ taken : List Char, '\n' ∉ taken ↔ ∀ c ∈ taken, decide (c ≠ '\n') := by
        simpa using fun taken => List.forall_mem_ne'.symm
      have isLongest := Text.isLongestPrefix_takeWhile noNewline cursor.remaining
      exact ⟨_, _, List.takeWhile_append_dropWhile.symm, .eatLine isLongest, rfl⟩
  | eatPast terminator =>
      cases cut : Text.splitPast? terminator.toList cursor.remaining with
      | some parts =>
          refine ⟨parts.1, parts.2, (Text.append_of_splitPast? cut).symm, ?_, ?_⟩
          · rw [perform, eatPast, cut]
            exact .eatPast (Text.isShortestPrefix_of_splitPast? cut)
          · rw [perform, eatPast, cut]
      | none =>
          refine ⟨cursor.remaining, [], (List.append_nil _).symm, ?_, ?_⟩
          · rw [perform, eatPast, cut]
            exact .eatAll (Text.splitPast?_eq_none_iff.mp cut)
          · rw [perform, eatPast, cut]

/-! ### One operation after the other -/

/-- Operations one after the other take from the cursor what they take from the zipper. -/
theorem exists_runs (cursor : Cursor) (before : List Char) {operations : List Operation}
    (fit : cursor.AllFit operations) :
    let last := (cursor.performAll operations).2
    ∃ taken, cursor.remaining = taken ++ last.remaining ∧
      last = cursor.movePast (taken, last.remaining) ∧
      Zipper.Runs ⟨before, cursor.remaining⟩ operations (cursor.performAll operations).1
        ⟨before ++ taken, last.remaining⟩ := by
  induction operations generalizing cursor before with
  | nil =>
      refine ⟨[], rfl, (movePast_nil rfl).symm, ?_⟩
      rw [List.append_nil]
      exact .nil _
  | cons operation operations ih =>
      rcases fit with ⟨fits, laterFit⟩
      rcases cursor.exists_takes operation fits with ⟨taken, rest, whole, takes, moved⟩
      rw [moved] at laterFit
      rcases ih (cursor.movePast (taken, rest)) (before ++ taken) laterFit with
        ⟨later, laterWhole, laterMoved, runs⟩
      rw [performAll, moved]
      refine ⟨taken ++ later, ?_, ?_, ?_⟩
      · rw [List.append_assoc, ← laterWhole, remaining_movePast, whole]
      · rw [movePast_movePast] at laterMoved
        exact laterMoved
      · rw [← List.append_assoc]
        exact .cons takes whole runs

/-- The cursor that slices its source anew finds each slice, tells the same and ends at the same
offset. -/
theorem StandsBehind.performAll? {cursor : Cursor} {before : List Char}
    {operations : List Operation} (stands : cursor.StandsBehind before)
    (fit : cursor.AllFit operations) :
    cursor.inBytes.performAll? operations =
      some ((cursor.performAll operations).1, (cursor.performAll operations).2.inBytes) := by
  induction operations generalizing cursor before with
  | nil => rfl
  | cons operation operations ih =>
      rcases fit with ⟨fits, laterFit⟩
      rcases cursor.exists_takes operation fits with ⟨taken, behind, whole, -, moved⟩
      have later := stands.movePast (taken, behind) whole.symm
      rw [← moved] at later
      simp [ByteCursor.performAll?, stands.perform?, ih later laterFit, performAll]

/-! ### What a cursor shows -/

/-- All that a cursor tells about its place agrees with the zipper. -/
structure Shows (cursor : Cursor) (source : String) (zipper : Zipper) : Prop where
  /-- The two parts are the source. -/
  whole : zipper.before ++ zipper.after = source.toList
  /-- The position is the number of bytes of the first part. -/
  position : cursor.position = (String.ofList zipper.before).utf8ByteSize
  /-- A character starts at the position, or the source ends there. -/
  boundary : String.Pos.Raw.IsValid source ⟨cursor.position⟩
  /-- What comes next is the source from the position on. -/
  sliceToEnd : Text.sliceBytes? cursor.position source.utf8ByteSize source.toList =
    some zipper.after
  remaining : cursor.remaining = zipper.after
  first : cursor.first? = zipper.after.head?
  startsWith : ∀ lead, cursor.startsWith lead ↔ lead.toList <+: zipper.after
  isAtEnd : cursor.isAtEnd ↔ source.utf8ByteSize ≤ cursor.position
  source : cursor.source = source

theorem StandsBehind.shows {cursor : Cursor} {source : String} {before : List Char}
    (stands : cursor.StandsBehind before) (same : cursor.source = source) :
    cursor.Shows source ⟨before, cursor.remaining⟩ := by
  have whole : source.toList = before ++ cursor.remaining := same ▸ stands.1
  have size : source.utf8ByteSize = cursor.position + Text.byteLength cursor.remaining := by
    rw [← Text.byteLength_toList, whole, Text.byteLength_append, stands.2]
  have position : cursor.position = (String.ofList before).utf8ByteSize := by
    rw [← Text.byteLength_toList, String.toList_ofList, stands.2]
  exact {
    source := same
    whole := whole.symm
    position := position
    boundary := by
      refine String.Pos.Raw.isValid_iff_exists_append.mpr
        ⟨String.ofList before, String.ofList cursor.remaining, ?_, ?_⟩
      · rw [← String.ofList_append, ← whole, String.ofList_toList]
      · rw [position]
        rfl
    sliceToEnd := by
      have slice := stands.sliceToEnd?
      rwa [Cursor.sliceToEnd?, same, Text.byteLength_toList] at slice
    remaining := rfl
    first := rfl
    startsWith := fun _ => startsWith_iff
    isAtEnd := by
      have covers := Text.length_le_byteLength cursor.remaining
      rw [Cursor.isAtEnd, List.isEmpty_iff, size]
      constructor
      · intro atEnd
        simp [atEnd]
      · intro beyond
        exact List.length_eq_zero_iff.mp (by omega) }

/--
Operations on a cursor keep it together with a zipper of the source. Between any two moments the
cursor tells what the zipper tells, its position does not decrease, and the slice from the earlier
position is the text that the zipper has passed since; and with nothing but the source and a byte
offset the same is told, without ever slicing inside a character.
-/
theorem performAll_simulates_zipper (source : String) (earlier later : List Operation)
    (fit : (atStart source).AllFit (earlier ++ later)) :
    let middle := (atStart source).performAll earlier
    let last := middle.2.performAll later
    ∃ passed taken rest,
      Zipper.Runs ⟨[], source.toList⟩ earlier middle.1 ⟨passed, taken ++ rest⟩ ∧
      Zipper.Runs ⟨passed, taken ++ rest⟩ later last.1 ⟨passed ++ taken, rest⟩ ∧
      middle.2.Shows source ⟨passed, taken ++ rest⟩ ∧
      last.2.Shows source ⟨passed ++ taken, rest⟩ ∧
      middle.2.position ≤ last.2.position ∧
      last.2.sliceFrom? middle.2.position = some (String.ofList taken) ∧
      ByteCursor.performAll? ⟨source, 0⟩ (earlier ++ later) =
        some (middle.1 ++ last.1, ⟨source, last.2.position⟩) := by
  intro middle last
  have start := standsBehind_atStart source
  rcases allFit_append.mp fit with ⟨earlierFit, laterFit⟩
  rcases exists_runs _ [] earlierFit with ⟨passed, whole, moved, earlierRuns⟩
  have stands : middle.2.StandsBehind passed := by
    rw [moved]
    exact start.movePast (passed, _) whole.symm
  rcases exists_runs _ passed laterFit with ⟨taken, laterWhole, laterMoved, laterRuns⟩
  have standsLast : last.2.StandsBehind (passed ++ taken) := by
    rw [laterMoved]
    exact stands.movePast (taken, _) laterWhole.symm
  have sourceMiddle : middle.2.source = source := congrArg Cursor.source moved
  have sourceLast : last.2.source = source :=
    (congrArg Cursor.source laterMoved).trans sourceMiddle
  refine ⟨passed, taken, last.2.remaining, ?_⟩
  rw [← laterWhole]
  refine ⟨earlierRuns, laterRuns, stands.shows sourceMiddle, standsLast.shows sourceLast,
    ?_, ?_, ?_⟩
  · rw [stands.2, standsLast.2, Text.byteLength_append]
    exact Nat.le_add_right _ _
  · rw [laterMoved]
    exact stands.sliceFrom?_movePast (taken, _) laterWhole.symm
  · have bytes := start.performAll? fit
    have ends : last.2.inBytes = ⟨source, last.2.position⟩ := by rw [inBytes, sourceLast]
    rw [performAll_append] at bytes
    rw [← ends]
    exact bytes

theorem performAll_multibyte :
    (atStart "αβ12*/x\n").AllFit
        [.bump, .bumpPast "β", .eatWhile Char.isDigit, .eatPast "*/", .eatLine] ∧
      ∃ passed taken rest,
        Zipper.Runs ⟨[], "αβ12*/x\n".toList⟩ [.bump, .bumpPast "β"] [.character 'α', .done]
          ⟨passed, taken ++ rest⟩ ∧
        Zipper.Runs ⟨passed, taken ++ rest⟩ [.eatWhile Char.isDigit, .eatPast "*/", .eatLine]
          [.done, .found true, .done] ⟨passed ++ taken, rest⟩ ∧
        String.ofList taken = "12*/x" := by
  have fit : (atStart "αβ12*/x\n").AllFit
      [.bump, .bumpPast "β", .eatWhile Char.isDigit, .eatPast "*/", .eatLine] := by decide
  have middle : (atStart "αβ12*/x\n").performAll [.bump, .bumpPast "β"] =
      ([.character 'α', .done], ⟨"αβ12*/x\n", 4, "12*/x\n".toList⟩) := rfl
  have last : performAll ⟨"αβ12*/x\n", 4, "12*/x\n".toList⟩
      [.eatWhile Char.isDigit, .eatPast "*/", .eatLine] =
      ([.done, .found true, .done], ⟨"αβ12*/x\n", 9, ['\n']⟩) := rfl
  have slice : sliceFrom? ⟨"αβ12*/x\n", 9, ['\n']⟩ 4 = some "12*/x" := rfl
  rcases performAll_simulates_zipper "αβ12*/x\n" [.bump, .bumpPast "β"]
      [.eatWhile Char.isDigit, .eatPast "*/", .eatLine] fit with
    ⟨passed, taken, rest, earlierRuns, laterRuns, -, -, -, between, -⟩
  simp only [middle, last, slice] at earlierRuns laterRuns between
  exact ⟨fit, passed, taken, rest, earlierRuns, laterRuns, (Option.some.inj between).symm⟩

end Cursor

end Highlighter
