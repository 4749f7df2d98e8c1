import TypedRecords.Text.Hex

/-!
# Object ids

Ids are drawn from a source: first those of a list, and then serial numbers in hexadecimal, at
least ten digits each. The listed ones may repeat; the serial ones never do. A draw that was
issued before in the same class is passed over, so `IdSource.fresh` never issues an id twice.
-/

namespace TypedRecords

/-- A source of ids: the listed draws that remain, and the number of serial draws so far. -/
structure IdSource where
  listed : List String := []
  serials : Nat := 0

namespace IdSource

/-- The number of characters that an id is cut down or filled up to. -/
def idLength : Nat :=
  10

/-- The id of a serial number: its hexadecimal digits after as many zeros as it lacks. -/
def serialId (number : Nat) : String :=
  String.ofList (paddedHex idLength number)

/-- The source whose listed draws are the beginnings of the given texts. -/
def ofTexts (texts : List String) : IdSource :=
  { listed := texts.map fun text => String.ofList (text.toList.take idLength) }

/-- Draw once. -/
def draw (source : IdSource) : String × IdSource :=
  match source.listed with
  | next :: rest => (next, { source with listed := rest })
  | [] => (serialId (source.serials + 1), { source with serials := source.serials + 1 })

/-- Draw until a draw is not among the issued ids, at most `retries` times more. -/
def drawUnissued (issued : List String) : Nat → IdSource → String × IdSource
  | 0, source => source.draw
  | retries + 1, source =>
      let (drawn, rest) := source.draw
      if issued.contains drawn then drawUnissued issued retries rest else (drawn, rest)

/-- The first draw that is not among the issued ids. Every listed draw may have been issued, and
after those at most as many serial draws as there are issued ids. -/
def fresh (source : IdSource) (issued : List String) : String × IdSource :=
  drawUnissued issued (source.listed.length + issued.length) source

end IdSource

end TypedRecords
