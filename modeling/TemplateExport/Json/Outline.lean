import TemplateExport.Document.Basic
import TemplateExport.Json.Token

namespace TemplateExport.Json

/-- A key and the tokens behind it; none if there is no text. -/
def keyOf (finish : Position) (t : Token) (rest : List Token) : Key :=
  match t.lexeme with
  | .scalar (.text s) =>
    let resume :=
      match rest with
      | [] => finish
      | next :: _ => match next.lexeme with
        | .closeTable => next.stop
        | _ => next.start
    .text s t.stop resume
  | .refused true skipping reading => .refused skipping reading
  | _ => .refused (some .illFormed) .illFormed

/-- What is left of some tokens: at most all of them. -/
abbrev Remainder (ts : List Token) :=
  { rest : List Token // rest.length ≤ ts.length }

mutual

def valueOf (finish : Position) (ts : List Token) : Document × Remainder ts :=
  match ts with
  | [] => (.missing .cutOff, ⟨[], by simp⟩)
  | t :: rest =>
    match t.lexeme with
    | .scalar value => (.scalar value t.stop, ⟨rest, by simp⟩)
    | .refused isText skipping reading => (.refused isText skipping reading, ⟨rest, by simp⟩)
    | .openArray =>
      match rest with
      | [] => (.array t.start [] (.error .cutOff), ⟨[], by simp⟩)
      | next :: after =>
        match next.lexeme with
        | .closeArray => (.array t.start [] (.ok next.stop), ⟨after, by simp; omega⟩)
        | _ =>
          let (items, close, ⟨left, h⟩) := itemsOf finish (next :: after)
          (.array t.start items close, ⟨left, by simp at *; omega⟩)
    | .openTable =>
      match rest with
      | [] => (.table t.start [] (.error .cutOff), ⟨[], by simp⟩)
      | next :: after =>
        match next.lexeme with
        | .closeTable => (.table t.start [] (.ok next.stop), ⟨after, by simp; omega⟩)
        | _ =>
          let (entries, close, ⟨left, h⟩) := entriesOf finish (next :: after)
          (.table t.start entries close, ⟨left, by simp at *; omega⟩)
    | _ => (.missing .illFormed, ⟨rest, by simp⟩)
termination_by (ts.length, 0)

def itemsOf (finish : Position) (ts : List Token) :
    List Document × Except Break Position × Remainder ts :=
  match valueOf finish ts with
  | (item, ⟨[], _⟩) => ([item], .error .cutOff, ⟨[], by simp⟩)
  | (item, ⟨next :: after, h⟩) =>
    have hafter : after.length < ts.length := h
    match next.lexeme with
    | .closeArray => ([item], .ok next.stop, ⟨after, by omega⟩)
    | .comma =>
      let (items, close, ⟨left, hleft⟩) := itemsOf finish after
      (item :: items, close, ⟨left, by omega⟩)
    | _ => ([item], .error .illFormed, ⟨after, by omega⟩)
termination_by (ts.length, 1)

def entriesOf (finish : Position) (ts : List Token) :
    List (Key × Document) × Except Break Position × Remainder ts :=
  match ts with
  | [] => ([(.refused (some .cutOff) .cutOff, .missing .cutOff)], .error .cutOff, ⟨[], by simp⟩)
  | [t] => ([(keyOf finish t [], .missing .cutOff)], .error .cutOff, ⟨[], by simp⟩)
  | t :: colon :: rest =>
    let key := keyOf finish t (colon :: rest)
    match colon.lexeme with
    | .colon =>
      match valueOf finish rest with
      | (value, ⟨[], _⟩) => ([(key, value)], .error .cutOff, ⟨[], by simp⟩)
      | (value, ⟨next :: after, h⟩) =>
        have hafter : after.length < rest.length := h
        match next.lexeme with
        | .closeTable => ([(key, value)], .ok next.stop, ⟨after, by simp; omega⟩)
        | .comma =>
          let (entries, close, ⟨left, hleft⟩) := entriesOf finish after
          ((key, value) :: entries, close, ⟨left, by simp; omega⟩)
        | _ => ([(key, value)], .error .illFormed, ⟨after, by simp; omega⟩)
    | _ => ([(key, .missing .illFormed)], .error .illFormed, ⟨rest, by simp; omega⟩)
termination_by (ts.length, 1)

end

/-- Reads a text that holds one value and nothing else. The value is read before what follows it
is looked at. -/
def read {α : Type} (reader : Document → Reading α) (text : String) : Reading α := do
  let (ts, finish) := tokens text.toList
  let (document, ⟨rest, _⟩) := valueOf finish ts
  let value ← reader document
  if rest.isEmpty then return value else .error (.malformed .illFormed)

end TemplateExport.Json
