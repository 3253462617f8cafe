import Lexis.Proofs.Excerpts
import Lexis.Proofs.Lines

/-!
# Places behind other lines

Lines that are put in front of a text move every place of the text by their bytes and by their line
feeds. Columns do not change, because they are counted from the start of a line. Nor does the text
that an error quotes: a walk to the left goes no further than the line feed in front of the text.
-/

namespace Lexis

/-- A text of whole lines: it is empty or ends with a line feed. -/
def EndsLine (text : List Char) : Prop :=
  ∀ last ∈ text.getLast?, last = '\n'

namespace EndsLine

variable {text front back : List Char}

theorem eq_nil_or_append (whole : EndsLine text) : text = [] ∨ ∃ body, text = body ++ ['\n'] := by
  rcases List.eq_nil_or_concat' text with rfl | ⟨body, last, rfl⟩
  · exact Or.inl rfl
  · have lastIs : last = '\n' := whole last (by simp)
    exact Or.inr ⟨body, by rw [lastIs]⟩

theorem getLast?_eq (whole : EndsLine text) (nonempty : text ≠ []) : text.getLast? = some '\n' := by
  rcases whole.eq_nil_or_append with rfl | ⟨body, rfl⟩
  · contradiction
  · simp

theorem of_append (whole : EndsLine (front ++ back)) : EndsLine back := by
  intro last member
  exact whole last (List.mem_getLast?_append_of_mem_getLast? member)

end EndsLine

namespace Cursor

/-- The same place behind so many more bytes and lines. -/
def shift (bytes lines : Nat) (cursor : Cursor) : Cursor where
  offset := cursor.offset + bytes
  line := cursor.line + lines
  lineStart := cursor.lineStart + bytes

variable {bytes lines : Nat} {cursor : Cursor} {text : List Char}

theorem offset_shift : (cursor.shift bytes lines).offset = cursor.offset + bytes :=
  rfl

theorem line_shift : (cursor.shift bytes lines).line = cursor.line + lines :=
  rfl

theorem column_shift : (cursor.shift bytes lines).column = cursor.column :=
  Nat.add_sub_add_right ..

theorem step_shift (byte : UInt8) :
    (cursor.shift bytes lines).step byte = (cursor.step byte).shift bytes lines := by
  unfold step
  split
  · simp only [shift, mk.injEq]
    omega
  · simp only [shift, mk.injEq, and_true]
    omega

theorem passing_shift (passed : List UInt8) :
    (cursor.shift bytes lines).passing passed = (cursor.passing passed).shift bytes lines := by
  induction passed generalizing cursor with
  | nil => rfl
  | cons byte later ih =>
      simp only [passing, List.foldl_cons, step_shift] at ih ⊢
      exact ih

theorem past_shift (text : List Char) :
    (cursor.shift bytes lines).past text = (cursor.past text).shift bytes lines :=
  passing_shift _

theorem line_past (text : List Char) (cursor : Cursor) :
    (cursor.past text).line = cursor.line + text.count '\n' := by
  induction text generalizing cursor with
  | nil => rfl
  | cons first later ih =>
      rcases Decidable.em (first = '\n') with rfl | notFeed
      · rw [past_feed, ih, List.count_cons_self, Nat.add_right_comm]
        rfl
      · rw [past_cons_of_ne notFeed, ih, List.count_cons_of_ne notFeed]

/-- Behind whole lines a new line starts. -/
theorem past_of_endsLine (whole : EndsLine text) :
    start.past text = start.shift (Text.size text) (text.count '\n') := by
  rcases whole.eq_nil_or_append with rfl | ⟨body, rfl⟩
  · rfl
  · have placed : start.past (body ++ ['\n']) =
        ⟨(start.past body).offset + 1, (start.past body).line + 1,
          (start.past body).offset + 1⟩ := by
      rw [past_append]
      rfl
    rw [placed, offset_past, line_past, shift, List.count_append, Text.size_append, Nat.add_assoc,
      Nat.add_assoc]
    rfl

end Cursor

/-! ## Windows -/

namespace Walk

/-- A walk does not come to what lies behind a line feed. -/
theorem reach_append_of_head? {behind : List UInt8}
    (stops : ∀ byte ∈ behind.head?, byte = lineFeed) (walk : Walk) (ahead : List UInt8) :
    walk.reach (ahead ++ behind) = walk.reach ahead := by
  induction ahead generalizing walk with
  | nil =>
      cases behind with
      | nil => rfl
      | cons byte more =>
          rcases stops byte rfl with rfl
          simp [reach, stops_step_lineFeed]
  | cons byte later ih => rw [List.cons_append, reach, reach, ih]

end Walk

theorem walk_append {front back : List UInt8} (stops : ∀ byte ∈ front.getLast?, byte = lineFeed)
    {place : Nat} (within : place ≤ back.length) (direction : Direction) :
    walk (front ++ back) (front.length + place) direction =
      front.length + walk back place direction := by
  cases direction with
  | left =>
      have reversed : ((front ++ back).take (front.length + place)).reverse =
          (back.take place).reverse ++ front.reverse := by
        rw [List.take_length_add_append, List.reverse_append]
      have reached := Walk.start.reach_le_length (back.take place).reverse
      rw [List.length_reverse, List.length_take] at reached
      rw [walk, walk, reversed, Walk.reach_append_of_head? (by simpa using stops)]
      omega
  | right => rw [walk, walk, List.drop_length_add_append, Nat.add_assoc]

/-- The same range behind so many more bytes. -/
def Window.shift (bytes : Nat) (range : Window) : Window where
  start := bytes + range.start
  stop := bytes + range.stop

theorem Text.lineFeed_of_endsLine {text : List Char} (whole : EndsLine text) :
    ∀ byte ∈ (bytes text).getLast?, byte = lineFeed := by
  rcases whole.eq_nil_or_append with rfl | ⟨body, rfl⟩
  · intro byte member
    contradiction
  · intro byte member
    rw [getLast?_bytes, lastByte?_append (List.cons_ne_nil _ _)] at member
    exact (Option.some.inj member).symm

theorem Text.splitAtByte?_append (front back : List Char) (offset : Nat) :
    splitAtByte? (front ++ back) (size front + offset) =
      (splitAtByte? back offset).map fun (before, after) => (front ++ before, after) := by
  ext ⟨before, after⟩
  simp only [splitAtByte?_eq_some_iff, Option.map_eq_some_iff, Prod.exists, Prod.mk.injEq]
  constructor
  · rintro ⟨parts, measured⟩
    have frontBegins := List.prefix_append front back
    have beforeBegins : before <+: front ++ back := ⟨after, parts.symm⟩
    have shorter : front.length ≤ before.length :=
      (size_le_size_iff frontBegins beforeBegins).mp (by omega)
    rcases List.prefix_of_prefix_length_le frontBegins beforeBegins shorter with ⟨inner, rfl⟩
    rw [List.append_assoc] at parts
    rw [size_append] at measured
    exact ⟨inner, after, ⟨List.append_cancel_left parts, by omega⟩, rfl, rfl⟩
  · rintro ⟨inner, rest, ⟨rfl, rfl⟩, rfl, rfl⟩
    exact ⟨by rw [List.append_assoc], size_append _ _⟩

theorem Text.slice?_append (front back : List Char) (start stop : Nat) :
    slice? (front ++ back) (size front + start) (size front + stop) = slice? back start stop := by
  rw [slice?, slice?, splitAtByte?_append, Nat.add_sub_add_left]
  cases splitAtByte? back start with
  | none => rfl
  | some parts => rfl

/-- Whole lines in front of a text move its windows. -/
theorem window_append {front : String} (whole : EndsLine front.toList) (back : String)
    (offset : Nat) :
    window (front ++ back) (Text.size front.toList + offset) =
      (window back offset).shift (Text.size front.toList) := by
  have stops := Text.lineFeed_of_endsLine whole
  have within : min offset (Text.size back.toList) ≤ (Text.bytes back.toList).length := by
    rw [Text.length_bytes]
    exact Nat.min_le_right _ _
  have moved (direction : Direction) := walk_append stops within direction
  simp only [Text.length_bytes] at moved
  simp only [window, String.toList_append, Text.bytes_append, List.length_append,
    Text.length_bytes, Nat.add_min_add_left, moved, Window.shift]

/-- Whole lines in front of a text do not change what is quoted of it. -/
theorem excerpt_append {front : String} (whole : EndsLine front.toList) (back : String)
    (offset : Nat) :
    excerpt (front ++ back) (Text.size front.toList + offset) = excerpt back offset := by
  simp only [excerpt, window_append whole, Window.shift, String.toList_append, Text.slice?_append]

/-! ## Tokens and errors -/

/-- The same position behind so many more bytes. -/
def Position.shift (bytes : Nat) (position : Position) : Position where
  offset := position.offset + bytes
  file := position.file

/-- The same token behind so many more bytes and lines. -/
def Token.shift (bytes lines : Nat) (token : Token) : Token where
  kind := token.kind
  value := token.value
  span := { start := token.span.start.shift bytes, stop := token.span.stop.shift bytes }
  line := token.line + lines
  column := token.column

/-- The same error behind so many more bytes and lines. -/
def ScanError.shift (bytes lines : Nat) (error : ScanError) : ScanError where
  position := error.position.shift bytes
  line := error.line + lines
  column := error.column
  character := error.character
  nearby := error.nearby

namespace Lexeme

variable {bytes lines : Nat} {cursor : Cursor}

theorem token_shift (file : String) (lexeme : Lexeme) :
    lexeme.token file (cursor.shift bytes lines) =
      (lexeme.token file cursor).shift bytes lines := by
  rw [token, Cursor.column_shift]
  simp only [token, Token.shift, Position.shift, Cursor.shift, Nat.add_right_comm]

theorem place_shift (file : String) (lexemes : List Lexeme) :
    place file (cursor.shift bytes lines) lexemes =
      (place file cursor lexemes).map (Token.shift bytes lines) := by
  induction lexemes generalizing cursor with
  | nil => rfl
  | cons lexeme later ih =>
      rw [place, place, List.map_cons, token_shift, Cursor.past_shift, ih]

theorem endOf_shift (lexemes : List Lexeme) :
    endOf (cursor.shift bytes lines) lexemes = (endOf cursor lexemes).shift bytes lines :=
  Cursor.past_shift _

end Lexeme

theorem ScanError.before_append {front : String} (whole : EndsLine front.toList)
    (back file : String) (left : List Char) (cursor : Cursor) (lines : Nat) :
    let moved := cursor.shift (Text.size front.toList) lines
    before (front ++ back) left { offset := moved.offset, file := file } moved.line moved.column =
      (before back left { offset := cursor.offset, file := file } cursor.line cursor.column).shift
        (Text.size front.toList) lines := by
  intro moved
  have quoted : excerpt (front ++ back) (cursor.offset + Text.size front.toList) =
      excerpt back cursor.offset := by
    rw [Nat.add_comm, excerpt_append whole]
  simp only [moved, before, Cursor.offset_shift, Cursor.line_shift, Cursor.column_shift, quoted,
    shift, Position.shift]

end Lexis
