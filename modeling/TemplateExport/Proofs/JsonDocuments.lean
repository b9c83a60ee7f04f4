import Mathlib.Data.List.Forall2
import TemplateExport.Json.Outline
import TemplateExport.Proofs.JsonTokens

namespace TemplateExport

/-- A key that can be read as a text. -/
inductive Key.Holds : Key → String → Prop where
  | text (s : String) (stop resume : Position) : Key.Holds (.text s stop resume) s

/-- A document without any fault that has the given value. -/
inductive Document.Holds : Document → Tree → Prop where
  | null (stop : Position) : Holds (.scalar .null stop) .null
  | boolean (b : Bool) (stop : Position) : Holds (.scalar (.boolean b) stop) (.boolean b)
  | text (s : String) (stop : Position) : Holds (.scalar (.text s) stop) (.text s)
  | array {items : List Document} {trees : List Tree} (start stop : Position)
      (parts : List.Forall₂ Holds items trees) :
      Holds (.array start items (.ok stop)) (.array trees)
  | table {entries : List (Key × Document)} {pairs : List (String × Tree)} (start stop : Position)
      (keys : List.Forall₂ Key.Holds (entries.map (·.1)) (pairs.map (·.1)))
      (values : List.Forall₂ Holds (entries.map (·.2)) (pairs.map (·.2))) :
      Holds (.table start entries (.ok stop)) (.table pairs)

namespace Json

def valueAt (finish : Position) (ts : List Token) : Document × List Token :=
  ((valueOf finish ts).1, (valueOf finish ts).2.val)

def itemsAt (finish : Position) (ts : List Token) :
    List Document × Except Break Position × List Token :=
  ((itemsOf finish ts).1, (itemsOf finish ts).2.1, (itemsOf finish ts).2.2.val)

def entriesAt (finish : Position) (ts : List Token) :
    List (Key × Document) × Except Break Position × List Token :=
  ((entriesOf finish ts).1, (entriesOf finish ts).2.1, (entriesOf finish ts).2.2.val)

section

variable {finish : Position} {t next : Token} {ts after left : List Token}

theorem valueAt_scalar {value : Scalar} (h : t.lexeme = .scalar value) :
    valueAt finish (t :: ts) = (.scalar value t.stop, ts) := by
  rw [valueAt, valueOf.eq_def]
  simp only [h]

theorem valueAt_empty_array (h : t.lexeme = .openArray) (closed : next.lexeme = .closeArray) :
    valueAt finish (t :: next :: after) = (.array t.start [] (.ok next.stop), after) := by
  rw [valueAt, valueOf]
  simp only [h, closed]

theorem valueAt_array {items : List Document} {close : Except Break Position}
    (h : t.lexeme = .openArray) (filled : next.lexeme ≠ .closeArray)
    (inside : itemsAt finish (next :: after) = (items, close, left)) :
    valueAt finish (t :: next :: after) = (.array t.start items close, left) := by
  rw [itemsAt, Prod.mk.injEq, Prod.mk.injEq] at inside
  obtain ⟨rfl, rfl, rfl⟩ := inside
  rw [valueAt, valueOf]
  simp only [h]

theorem valueAt_empty_table (h : t.lexeme = .openTable) (closed : next.lexeme = .closeTable) :
    valueAt finish (t :: next :: after) = (.table t.start [] (.ok next.stop), after) := by
  rw [valueAt, valueOf]
  simp only [h, closed]

theorem valueAt_table {entries : List (Key × Document)} {close : Except Break Position}
    (h : t.lexeme = .openTable) (filled : next.lexeme ≠ .closeTable)
    (inside : entriesAt finish (next :: after) = (entries, close, left)) :
    valueAt finish (t :: next :: after) = (.table t.start entries close, left) := by
  rw [entriesAt, Prod.mk.injEq, Prod.mk.injEq] at inside
  obtain ⟨rfl, rfl, rfl⟩ := inside
  rw [valueAt, valueOf]
  simp only [h]

theorem itemsAt_last {item : Document} (first : valueAt finish ts = (item, next :: after))
    (closed : next.lexeme = .closeArray) :
    itemsAt finish ts = ([item], .ok next.stop, after) := by
  rcases read : valueOf finish ts with ⟨d, r, bound⟩
  simp only [valueAt, read, Prod.mk.injEq] at first
  obtain ⟨rfl, rfl⟩ := first
  rw [itemsAt, itemsOf, read]
  simp only [closed]

theorem itemsAt_more {item : Document} {items : List Document} {close : Except Break Position}
    (first : valueAt finish ts = (item, next :: after)) (comma : next.lexeme = .comma)
    (rest : itemsAt finish after = (items, close, left)) :
    itemsAt finish ts = (item :: items, close, left) := by
  rw [itemsAt, Prod.mk.injEq, Prod.mk.injEq] at rest
  obtain ⟨rfl, rfl, rfl⟩ := rest
  rcases read : valueOf finish ts with ⟨d, r, bound⟩
  simp only [valueAt, read, Prod.mk.injEq] at first
  obtain ⟨rfl, rfl⟩ := first
  rw [itemsAt, itemsOf, read]
  simp only [comma]

theorem entriesAt_last {colon : Token} {value : Document} (marked : colon.lexeme = .colon)
    (first : valueAt finish ts = (value, next :: after)) (closed : next.lexeme = .closeTable) :
    entriesAt finish (t :: colon :: ts) =
      ([(keyOf finish t (colon :: ts), value)], .ok next.stop, after) := by
  rcases read : valueOf finish ts with ⟨d, r, bound⟩
  simp only [valueAt, read, Prod.mk.injEq] at first
  obtain ⟨rfl, rfl⟩ := first
  rw [entriesAt, entriesOf]
  simp only [marked, read, closed]

theorem entriesAt_more {colon : Token} {value : Document} {entries : List (Key × Document)}
    {close : Except Break Position} (marked : colon.lexeme = .colon)
    (first : valueAt finish ts = (value, next :: after)) (comma : next.lexeme = .comma)
    (rest : entriesAt finish after = (entries, close, left)) :
    entriesAt finish (t :: colon :: ts) =
      ((keyOf finish t (colon :: ts), value) :: entries, close, left) := by
  rw [entriesAt, Prod.mk.injEq, Prod.mk.injEq] at rest
  obtain ⟨rfl, rfl, rfl⟩ := rest
  rcases read : valueOf finish ts with ⟨d, r, bound⟩
  simp only [valueAt, read, Prod.mk.injEq] at first
  obtain ⟨rfl, rfl⟩ := first
  rw [entriesAt, entriesOf]
  simp only [marked, read, comma]

end

theorem exists_token {ts : List Token} {lexeme : Lexeme} {lexemes : List Lexeme}
    (h : ts.map (·.lexeme) = lexeme :: lexemes) :
    ∃ t rest, ts = t :: rest ∧ t.lexeme = lexeme ∧ rest.map (·.lexeme) = lexemes :=
  List.map_eq_cons_iff.mp h

theorem lexemesOf_eq_cons (tree : Tree) :
    ∃ first rest, lexemesOf tree = first :: rest ∧ first ≠ .closeArray := by
  cases tree <;> simp [lexemesOf]

theorem itemLexemes_eq_cons {items : List Tree} (some : items ≠ []) :
    ∃ first rest, itemLexemes items = first :: rest ∧ first ≠ .closeArray := by
  obtain ⟨item, items, rfl⟩ := List.exists_cons_of_ne_nil some
  obtain ⟨first, rest, same, start⟩ := lexemesOf_eq_cons item
  cases items with
  | nil => exact ⟨first, rest, same, start⟩
  | cons next items =>
    refine ⟨first, rest ++ .comma :: itemLexemes (next :: items), ?_, start⟩
    simp [itemLexemes, same]

theorem entryLexemes_eq_cons {pairs : List (String × Tree)} (some : pairs ≠ []) :
    ∃ first rest, entryLexemes pairs = first :: rest ∧ first ≠ .closeTable := by
  obtain ⟨⟨key, value⟩, pairs, rfl⟩ := List.exists_cons_of_ne_nil some
  cases pairs <;> simp [entryLexemes]

theorem keyOf_holds {finish : Position} {t : Token} {rest : List Token} {key : String}
    (h : t.lexeme = .scalar (.text key)) : (keyOf finish t rest).Holds key := by
  simp only [keyOf, h]
  exact .text key _ _

mutual

theorem valueAt_printed (finish : Position) : (tree : Tree) → (ts rest : List Token) →
    ts.map (·.lexeme) = lexemesOf tree →
    ∃ d : Document, d.Holds tree ∧ valueAt finish (ts ++ rest) = (d, rest)
  | .null, ts, rest, same => by
    obtain ⟨t, others, rfl, lexeme, none⟩ := exists_token same
    cases List.map_eq_nil_iff.mp none
    exact ⟨_, .null t.stop, valueAt_scalar lexeme⟩
  | .boolean b, ts, rest, same => by
    obtain ⟨t, others, rfl, lexeme, none⟩ := exists_token same
    cases List.map_eq_nil_iff.mp none
    exact ⟨_, .boolean b t.stop, valueAt_scalar lexeme⟩
  | .text s, ts, rest, same => by
    obtain ⟨t, others, rfl, lexeme, none⟩ := exists_token same
    cases List.map_eq_nil_iff.mp none
    exact ⟨_, .text s t.stop, valueAt_scalar lexeme⟩
  | .array items, ts, rest, same => by
    obtain ⟨t, others, rfl, lexeme, same⟩ := exists_token same
    obtain ⟨inner, outer, rfl, inside, last⟩ := List.map_eq_append_iff.mp same
    obtain ⟨close, others, rfl, closed, none⟩ := exists_token last
    cases List.map_eq_nil_iff.mp none
    by_cases empty : items = []
    · subst empty
      cases List.map_eq_nil_iff.mp inside
      exact ⟨_, .array t.start close.stop .nil, valueAt_empty_array lexeme closed⟩
    · obtain ⟨documents, parts, read⟩ :=
        itemsAt_printed finish items empty inner close rest inside closed
      obtain ⟨first, more, start, opening⟩ := itemLexemes_eq_cons empty
      obtain ⟨next, after, rfl, same, _⟩ := exists_token (inside.trans start)
      refine ⟨_, .array t.start close.stop parts, ?_⟩
      have filled : next.lexeme ≠ .closeArray := same ▸ opening
      simpa using valueAt_array lexeme filled read
  | .table entries, ts, rest, same => by
    obtain ⟨t, others, rfl, lexeme, same⟩ := exists_token same
    obtain ⟨inner, outer, rfl, inside, last⟩ := List.map_eq_append_iff.mp same
    obtain ⟨close, others, rfl, closed, none⟩ := exists_token last
    cases List.map_eq_nil_iff.mp none
    by_cases empty : entries = []
    · subst empty
      cases List.map_eq_nil_iff.mp inside
      exact ⟨_, .table t.start close.stop .nil .nil, valueAt_empty_table lexeme closed⟩
    · obtain ⟨documents, keys, values, read⟩ :=
        entriesAt_printed finish entries empty inner close rest inside closed
      obtain ⟨first, more, start, opening⟩ := entryLexemes_eq_cons empty
      obtain ⟨next, after, rfl, same, _⟩ := exists_token (inside.trans start)
      refine ⟨_, .table t.start close.stop keys values, ?_⟩
      have filled : next.lexeme ≠ .closeTable := same ▸ opening
      simpa using valueAt_table lexeme filled read

theorem itemsAt_printed (finish : Position) : (items : List Tree) → items ≠ [] →
    (ts : List Token) → (close : Token) → (rest : List Token) →
    ts.map (·.lexeme) = itemLexemes items → close.lexeme = .closeArray →
    ∃ documents : List Document, List.Forall₂ Document.Holds documents items ∧
      itemsAt finish (ts ++ close :: rest) = (documents, .ok close.stop, rest)
  | [], filled, _, _, _, _, _ => absurd rfl filled
  | [item], _, ts, close, rest, same, closed => by
    obtain ⟨d, holds, read⟩ := valueAt_printed finish item ts (close :: rest) same
    exact ⟨[d], .cons holds .nil, itemsAt_last read closed⟩
  | item :: next :: items, _, ts, close, rest, same, closed => by
    obtain ⟨inner, outer, rfl, first, others⟩ := List.map_eq_append_iff.mp same
    obtain ⟨comma, outer, rfl, parted, others⟩ := exists_token others
    obtain ⟨d, holds, read⟩ :=
      valueAt_printed finish item inner (comma :: (outer ++ close :: rest)) first
    obtain ⟨documents, parts, rest_read⟩ :=
      itemsAt_printed finish (next :: items) (by simp) outer close rest others closed
    refine ⟨d :: documents, .cons holds parts, ?_⟩
    simpa using itemsAt_more read parted rest_read

theorem entriesAt_printed (finish : Position) : (pairs : List (String × Tree)) → pairs ≠ [] →
    (ts : List Token) → (close : Token) → (rest : List Token) →
    ts.map (·.lexeme) = entryLexemes pairs → close.lexeme = .closeTable →
    ∃ entries : List (Key × Document),
      List.Forall₂ Key.Holds (entries.map (·.1)) (pairs.map (·.1)) ∧
      List.Forall₂ Document.Holds (entries.map (·.2)) (pairs.map (·.2)) ∧
      entriesAt finish (ts ++ close :: rest) = (entries, .ok close.stop, rest)
  | [], filled, _, _, _, _, _ => absurd rfl filled
  | [(key, value)], _, ts, close, rest, same, closed => by
    obtain ⟨t, ts, rfl, named, same⟩ := exists_token same
    obtain ⟨colon, ts, rfl, marked, same⟩ := exists_token same
    obtain ⟨d, holds, read⟩ := valueAt_printed finish value ts (close :: rest) same
    refine ⟨_, ?_, ?_, entriesAt_last marked read closed⟩
    · simpa using keyOf_holds named
    · simpa using holds
  | (key, value) :: next :: pairs, _, ts, close, rest, same, closed => by
    obtain ⟨t, ts, rfl, named, same⟩ := exists_token same
    obtain ⟨colon, ts, rfl, marked, same⟩ := exists_token same
    obtain ⟨inner, outer, rfl, first, others⟩ := List.map_eq_append_iff.mp same
    obtain ⟨comma, outer, rfl, parted, others⟩ := exists_token others
    obtain ⟨d, holds, read⟩ :=
      valueAt_printed finish value inner (comma :: (outer ++ close :: rest)) first
    obtain ⟨entries, keys, values, rest_read⟩ :=
      entriesAt_printed finish (next :: pairs) (by simp) outer close rest others closed
    have whole := entriesAt_more (t := t) marked read parted rest_read
    refine ⟨_, ?_, ?_, by simpa using whole⟩
    · simpa using And.intro (keyOf_holds named) keys
    · simpa using And.intro holds values

end

theorem read_eq {α : Type} (reader : Document → Reading α) (text : String) :
    read reader text =
      let found := valueAt (tokens text.toList).2 (tokens text.toList).1
      reader found.1 >>= fun value =>
        if found.2.isEmpty then .ok value else .error (.malformed .illFormed) :=
  rfl

/-- The document of a text as a whole. -/
def IsDocument (text : String) (d : Document) : Prop :=
  valueAt (tokens text.toList).2 (tokens text.toList).1 = (d, [])

theorem read_of_document {α : Type} (reader : Document → Reading α) {text : String} {d : Document}
    (whole : IsDocument text d) : read reader text = reader d := by
  rw [IsDocument] at whole
  rw [read_eq, whole]
  change (reader d >>= fun value => .ok value) = reader d
  cases reader d <;> rfl

theorem document_print (tree : Tree) :
    ∃ d : Document, d.Holds tree ∧ IsDocument (String.ofList (print tree)) d := by
  obtain ⟨ts, steps, last, same, _, scanned⟩ :=
    emits_print tree (print tree).length .start [] (by simp)
  rw [List.append_nil] at scanned
  obtain ⟨d, holds, found⟩ := valueAt_printed last tree ts [] same
  have all : tokens (String.ofList (print tree)).toList = (ts, last) := by
    rw [String.toList_ofList, tokens, scanned]
    cases steps <;> simp [tokensWithin]
  refine ⟨d, holds, ?_⟩
  rw [IsDocument, all, ← List.append_nil ts, found]

/-- A printed value is read from a document that holds it, with nothing left over. -/
theorem read_print {α : Type} (reader : Document → Reading α) (tree : Tree) :
    ∃ d : Document, d.Holds tree ∧ read reader (String.ofList (print tree)) = reader d := by
  obtain ⟨d, holds, whole⟩ := document_print tree
  exact ⟨d, holds, read_of_document reader whole⟩

end Json

end TemplateExport
