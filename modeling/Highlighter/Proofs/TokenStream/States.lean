import Highlighter.Proofs.Cursor.Position
import Highlighter.Proofs.Scanner.Coverage
import Highlighter.TokenStream

/-!
# States of a token stream

A stream is used by calling for the next token again and again. Whatever the number of calls, it
then stands behind the tokens that it has produced: its offset is their length in bytes, and what it
keeps is the text behind them. The tokens still to come are the other tokens of the source, so their
number lies within the bounds that the stream gives and the bytes that they cover follow each other
from the offset to the end of the source. All of this is kept by one call, and holds after any
number of calls by induction.
-/

namespace Highlighter

/-! ### Repeated calls -/

namespace Iterator

variable {State Item : Type} {next? : State → Option (Item × State)}

/-- What a call gives, with the state that it leaves, which is the same one if nothing comes. -/
def call (next? : State → Option (Item × State)) (state : State) : Option Item × State :=
  match next? state with
  | none => (none, state)
  | some (item, behind) => (some item, behind)

/-- The state after a number of calls. -/
def afterCalls (next? : State → Option (Item × State)) : Nat → State → State
  | 0, state => state
  | calls + 1, state => afterCalls next? calls (call next? state).2

/-- The calls from a state on give the items one after the other, and then nothing. -/
inductive Yields (next? : State → Option (Item × State)) : State → List Item → Prop
  | nil {state : State} : next? state = none → Yields next? state []
  | cons {state behind : State} {item : Item} {items : List Item} :
      next? state = some (item, behind) → Yields next? behind items →
        Yields next? state (item :: items)

theorem call_eq_of_none {state : State} (nothing : next? state = none) :
    call next? state = (none, state) := by
  rw [call, nothing]

theorem call_eq_of_some {state behind : State} {item : Item}
    (comes : next? state = some (item, behind)) : call next? state = (some item, behind) := by
  rw [call, comes]

theorem next?_eq_none_of_call {state : State} (nothing : (call next? state).1 = none) :
    next? state = none := by
  cases comes : next? state with
  | none => rfl
  | some found =>
      rw [call_eq_of_some comes] at nothing
      nomatch nothing

/-- Once nothing comes, no call changes the state any more. -/
theorem afterCalls_of_none {state : State} (nothing : next? state = none) (calls : Nat) :
    afterCalls next? calls state = state := by
  induction calls with
  | zero => rfl
  | succ calls ih => rw [afterCalls, call_eq_of_none nothing, ih]

theorem Yields.afterCalls {state : State} {items : List Item} (yields : Yields next? state items)
    (calls : Nat) : Yields next? (afterCalls next? calls state) (items.drop calls) := by
  induction calls generalizing state items with
  | zero => exact yields
  | succ calls ih =>
      cases yields with
      | nil nothing =>
          rw [afterCalls_of_none nothing, List.drop_nil]
          exact .nil nothing
      | cons comes later =>
          rw [Iterator.afterCalls, call_eq_of_some comes, List.drop_succ_cons]
          exact ih later

theorem Yields.unique {state : State} {left right : List Item} (isLeft : Yields next? state left)
    (isRight : Yields next? state right) : left = right := by
  induction isLeft generalizing right with
  | nil nothing =>
      cases isRight with
      | nil _ => rfl
      | cons comes _ => simp [nothing] at comes
  | cons comes _ ih =>
      cases isRight with
      | nil nothing => simp [nothing] at comes
      | cons comesRight later =>
          rcases Prod.mk.inj (Option.some.inj (comes.symm.trans comesRight)) with ⟨rfl, rfl⟩
          rw [ih later]

end Iterator

/-! ### One call -/

namespace TokenStream

/-- All that a call for the next token can do. -/
theorem next?_cases (stream : TokenStream) :
    (stream.cursor.remaining = [] ∧ stream.next? = none ∧ stream.toList = []) ∨
      ∃ (token : Token) (behind : TokenStream),
        stream.cursor.remaining = token.lexeme.toList ++ behind.cursor.remaining ∧
        behind.cursor =
          stream.cursor.movePast (token.lexeme.toList, behind.cursor.remaining) ∧
        stream.next? = some (token, behind) ∧ stream.toList = token :: behind.toList := by
  cases text : stream.cursor.remaining with
  | nil =>
      left
      simp [next?, Scanner.next?, toList, text]
  | cons first following =>
      right
      have whole := Scanner.body_append_rest_recognize stream.language first following
      refine ⟨(Scanner.recognize stream.language first following).token first,
        ⟨stream.language, stream.cursor.movePast
          (first :: (Scanner.recognize stream.language first following).body,
            (Scanner.recognize stream.language first following).rest)⟩, ?_, ?_, ?_, ?_⟩
      · simp [whole]
      · simp
      · simp [next?, Scanner.next?, text]
      · rw [toList, text, Scanner.scan_cons]
        rfl

/-- The stream stands in the source behind the tokens that it has produced. -/
structure StandsBehind (stream : TokenStream) (source : String) (produced : List Token) :
    Prop where
  source : stream.cursor.source = source
  cursor : stream.cursor.StandsBehind (produced.flatMap (·.lexeme.toList))

theorem standsBehind_ofSource (language : Language) (source : String) :
    (ofSource language source).StandsBehind source [] :=
  ⟨rfl, Cursor.standsBehind_atStart source⟩

/-- A call leads behind one more token. -/
theorem StandsBehind.next? {stream behind : TokenStream} {source : String}
    {produced : List Token} {token : Token} (stands : stream.StandsBehind source produced)
    (whole : stream.cursor.remaining = token.lexeme.toList ++ behind.cursor.remaining)
    (moved : behind.cursor =
      stream.cursor.movePast (token.lexeme.toList, behind.cursor.remaining)) :
    behind.StandsBehind source (produced ++ [token]) := by
  constructor
  · rw [moved]
    exact stands.source
  · rw [moved, List.flatMap_append, List.flatMap_singleton]
    exact stands.cursor.movePast _ whole.symm

/-- After any number of calls the stream stands behind as many tokens, or behind all of them. -/
theorem StandsBehind.afterCalls {stream : TokenStream} {source : String} {produced : List Token}
    (stands : stream.StandsBehind source produced) (calls : Nat) :
    (Iterator.afterCalls TokenStream.next? calls stream).StandsBehind source
      (produced ++ stream.toList.take calls) := by
  induction calls generalizing stream produced with
  | zero => simpa [Iterator.afterCalls] using stands
  | succ calls ih =>
      rcases stream.next?_cases with
        ⟨-, nothing, noTokens⟩ | ⟨token, behind, whole, moved, comes, tokens⟩
      · rw [Iterator.afterCalls_of_none nothing, noTokens]
        simpa using stands
      · have later := ih (stands.next? whole moved)
        rw [Iterator.afterCalls, Iterator.call_eq_of_some comes, tokens]
        simpa using later

/-- A statement holds of every stream if it holds at the end, and of each stream once it holds of the
one behind its next token. -/
theorem next?_induction {motive : TokenStream → Prop}
    (atEnd : ∀ stream, stream.next? = none → stream.toList = [] → motive stream)
    (step : ∀ (stream : TokenStream) (token : Token) (behind : TokenStream),
      behind.cursor = stream.cursor.movePast (token.lexeme.toList, behind.cursor.remaining) →
      stream.next? = some (token, behind) → stream.toList = token :: behind.toList →
      motive behind → motive stream)
    (stream : TokenStream) : motive stream := by
  generalize coming : stream.toList = tokens
  induction tokens generalizing stream with
  | nil =>
      rcases stream.next?_cases with ⟨-, nothing, -⟩ | ⟨_, _, -, -, -, some⟩
      · exact atEnd stream nothing coming
      · simp [some] at coming
  | cons first later ih =>
      rcases stream.next?_cases with ⟨-, -, none⟩ | ⟨token, behind, -, moved, comes, some⟩
      · simp [none] at coming
      · have others := (List.cons.inj (some.symm.trans coming)).2
        exact step stream token behind moved comes some (ih behind others)

/-- The calls from a state on give the tokens still to come. -/
theorem yields_toList (stream : TokenStream) :
    Iterator.Yields TokenStream.next? stream stream.toList := by
  induction stream using next?_induction with
  | atEnd stream nothing noTokens =>
      rw [noTokens]
      exact .nil nothing
  | step stream token behind moved comes tokens ih =>
      rw [tokens]
      exact .cons comes ih

/-- The number of tokens still to come lies within the bounds. -/
theorem length_toList_bounds (stream : TokenStream) :
    stream.sizeHint.lower ≤ stream.toList.length ∧
      stream.toList.length ≤ stream.sizeHint.upper := by
  constructor
  · rcases stream.next?_cases with ⟨atEnd, -, -⟩ | ⟨_, _, -, -, -, tokens⟩
    · simp [sizeHint, Cursor.isAtEnd, atEnd]
    · have lower : stream.sizeHint.lower ≤ 1 := by
        simp only [sizeHint]
        split <;> decide
      rw [tokens, List.length_cons]
      omega
  · exact (Scanner.length_scan_le _ _).trans (Text.length_le_byteLength _)

end TokenStream

/-! ### Bytes of tokens -/

/-- The tokens cover bytes that follow each other directly, from one offset to another. -/
def SpannedToken.Adjoin : Nat → List SpannedToken → Nat → Prop
  | start, [], stop => start = stop
  | start, spanned :: rest, stop => spanned.start = start ∧ Adjoin spanned.stop rest stop

namespace TokenStream.spanned

theorem map_token_place (start : Nat) (tokens : List Token) :
    (place start tokens).map (·.token) = tokens := by
  induction tokens generalizing start with
  | nil => rfl
  | cons token tokens ih => rw [place, List.map_cons, ih]

theorem adjoin_place (start : Nat) (tokens : List Token) :
    SpannedToken.Adjoin start (place start tokens)
      (start + Text.byteLength (tokens.flatMap (·.lexeme.toList))) := by
  induction tokens generalizing start with
  | nil => rfl
  | cons token tokens ih =>
      refine ⟨rfl, ?_⟩
      simpa [Token.size, Nat.add_assoc] using ih (start + token.size)

/-- Tokens that are placed behind other text cover the bytes of their own lexemes. -/
theorem sliceBytes?_of_mem_place {before : List Char} {tokens : List Token}
    {spanned : SpannedToken} (member : spanned ∈ place (Text.byteLength before) tokens) :
    Text.sliceBytes? spanned.start spanned.stop
        (before ++ tokens.flatMap (·.lexeme.toList)) =
      some spanned.token.lexeme.toList := by
  induction tokens generalizing before with
  | nil => simp [place] at member
  | cons token tokens ih =>
      have behind : Text.byteLength before + token.size =
          Text.byteLength (before ++ token.lexeme.toList) := by
        rw [Text.byteLength_append, Token.size]
      rw [place, behind] at member
      rw [List.flatMap_cons]
      rcases List.mem_cons.mp member with rfl | later
      · exact Text.sliceBytes?_byteLength before token.lexeme.toList _
      · rw [← List.append_assoc]
        exact ih later

end TokenStream.spanned

namespace TokenStream

/-- The calls of the stream of tokens with their bytes give the tokens still to come as they are
placed from the offset on. -/
theorem yields_spanned (stream : TokenStream) :
    Iterator.Yields SpannedStream.next? ⟨stream⟩ stream.spanned := by
  induction stream using next?_induction with
  | atEnd stream nothing noTokens =>
      rw [spanned, noTokens]
      exact .nil (by rw [SpannedStream.next?, nothing, Option.map_none])
  | step stream token behind moved comes tokens ih =>
      have offset : behind.offset = stream.offset + token.size := by
        rw [TokenStream.offset, moved]
        rfl
      rw [spanned, offset] at ih
      rw [spanned, tokens]
      exact .cons (by rw [SpannedStream.next?, comes, Option.map_some]) ih

/-- The stream stands in the source between the tokens that it has produced and those that are
still to come, and all that it tells about itself agrees with this. -/
structure StandsBetween (stream : TokenStream) (source : String) (produced coming : List Token) :
    Prop where
  /-- The offset is the number of bytes of the tokens produced. -/
  offset : stream.offset = (Token.joinLexemes produced).utf8ByteSize
  /-- A character starts at the offset, or the source ends there. -/
  boundary : String.Pos.Raw.IsValid source ⟨stream.offset⟩
  /-- The text that has not been scanned is the source from the offset on. -/
  remaining :
    Text.sliceBytes? stream.offset source.utf8ByteSize source.toList =
      some stream.remaining.toList
  /-- The calls from now on give the tokens still to come. -/
  yields : Iterator.Yields next? stream coming
  /-- Their number lies within the bounds. -/
  sizeHint : stream.sizeHint.lower ≤ coming.length ∧ coming.length ≤ stream.sizeHint.upper
  /-- With their bytes they are what the calls of the other stream give. -/
  yieldsSpanned : Iterator.Yields SpannedStream.next? ⟨stream⟩ stream.spanned
  /-- There are as many tokens with bytes as there are tokens, and they are the same. -/
  tokens : stream.spanned.map (·.token) = coming
  /-- The number of tokens with bytes lies within the bounds of their own stream. -/
  spannedSizeHint : (SpannedStream.mk stream).sizeHint.lower ≤ stream.spanned.length ∧
    stream.spanned.length ≤ (SpannedStream.mk stream).sizeHint.upper
  /-- The bytes follow each other from the offset to the end of the source. -/
  adjoin : SpannedToken.Adjoin stream.offset stream.spanned source.utf8ByteSize
  /-- The bytes of each token are those of its lexeme. -/
  slices : ∀ spanned ∈ stream.spanned,
    Text.sliceBytes? spanned.start spanned.stop source.toList = some spanned.token.lexeme.toList
  /-- Once a call gives nothing, all later calls give nothing and the offset stays. -/
  ended : (Iterator.call next? stream).1 = none → ∀ calls,
    (Iterator.call next? (Iterator.afterCalls next? calls stream)).1 = none ∧
      (Iterator.afterCalls next? calls stream).offset = stream.offset

theorem StandsBehind.standsBetween {stream : TokenStream} {source : String}
    {produced : List Token} (stands : stream.StandsBehind source produced) :
    stream.StandsBetween source produced stream.toList := by
  have offset : stream.offset = Text.byteLength (produced.flatMap (·.lexeme.toList)) :=
    stands.cursor.2
  have whole : source.toList =
      produced.flatMap (·.lexeme.toList) ++ stream.toList.flatMap (·.lexeme.toList) := by
    rw [toList, Scanner.flatMap_lexeme_scan, ← stands.source]
    exact stands.cursor.1
  have joined : stream.offset = (Token.joinLexemes produced).utf8ByteSize := by
    rw [offset, ← Text.byteLength_toList, Token.toList_joinLexemes]
  have bounds := stream.length_toList_bounds
  have tokens := spanned.map_token_place stream.offset stream.toList
  have sameNumber : stream.spanned.length = stream.toList.length := by
    rw [← congrArg List.length tokens, List.length_map]
    rfl
  exact {
    offset := joined
    boundary := by
      refine String.Pos.Raw.isValid_iff_exists_append.mpr
        ⟨Token.joinLexemes produced, Token.joinLexemes stream.toList, ?_, ?_⟩
      · rw [← Token.joinLexemes_append]
        apply String.toList_injective
        rw [Token.toList_joinLexemes, List.flatMap_append, whole]
      · rw [joined]
        rfl
    remaining := by
      have slice := stands.cursor.sliceToEnd?
      rw [Cursor.sliceToEnd?, stands.source, Text.byteLength_toList] at slice
      rw [TokenStream.remaining, String.toList_ofList]
      exact slice
    yields := stream.yields_toList
    sizeHint := bounds
    yieldsSpanned := stream.yields_spanned
    tokens := tokens
    spannedSizeHint := by
      rw [sameNumber]
      exact bounds
    adjoin := by
      have adjoin := spanned.adjoin_place stream.offset stream.toList
      rw [offset, ← Text.byteLength_append, ← whole, Text.byteLength_toList, ← offset] at adjoin
      exact adjoin
    slices := by
      intro token member
      rw [TokenStream.spanned, offset] at member
      rw [whole]
      exact spanned.sliceBytes?_of_mem_place member
    ended := by
      intro nothing calls
      rw [Iterator.afterCalls_of_none (Iterator.next?_eq_none_of_call nothing)]
      exact ⟨nothing, rfl⟩ }

/--
Whatever the number of calls, the stream stands between the first tokens of the source, as many as
there were calls, and the others.
-/
theorem standsBetween_afterCalls (language : Language) (source : String) (calls : Nat) :
    (Iterator.afterCalls next? calls (ofSource language source)).StandsBetween source
      ((language.tokenize source).take calls) ((language.tokenize source).drop calls) := by
  have start := standsBehind_ofSource language source
  have reached := (start.afterCalls calls).standsBetween
  have coming : (Iterator.afterCalls next? calls (ofSource language source)).toList =
      (language.tokenize source).drop calls :=
    (yields_toList _).unique ((yields_toList (ofSource language source)).afterCalls calls)
  rw [coming] at reached
  exact reached

end TokenStream

end Highlighter
