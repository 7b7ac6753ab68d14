/-!
# Texts in columns

Texts that stand side by side: separated by a sign, with a new line where one is full, or in
columns, as many as fit into a line. Columns are filled downwards or across, and what is missing
between them is written with tabs where those reach. A text comes with the number of columns it
takes.
-/

namespace Suite.Shell

/-- A text and the number of columns it takes. -/
structure Cell where
  text : String
  width : Nat

namespace Cell

/-- The gap from one place in a line to another; tabs stand `tab` places apart, and there are none
for zero. -/
def gap (tab : Nat) : Nat → Nat → Nat → List Char
  | 0, _, _ => []
  | steps + 1, start, stop =>
    if stop ≤ start then []
    else if tab ≠ 0 && (start + 1) / tab < stop / tab then
      '\t' :: gap tab steps (start + (tab - start % tab)) stop
    else ' ' :: gap tab steps (start + 1) stop

/-- Texts with a sign behind each but the last, each followed by a blank or, if the next text has no
place in a line of this length, by a line end; zero is no limit. -/
def separated (sign : Char) (lineEnd : String) (length : Nat) : Nat → List Cell → String
  | _, [] => lineEnd
  | _, [c] => c.text ++ lineEnd
  | place, c :: d :: rest =>
    let place := place + c.width
    let fits := length = 0 || place + d.width + 2 < length
    c.text ++ sign.toString ++ (if fits then " " else lineEnd) ++
      separated sign lineEnd length (if fits then place + 2 else 0) (d :: rest)

/-- The width of the narrowest column. -/
def narrowest : Nat := 3

/-- The column of each text if there are `count` of them. -/
def columnOf (downwards : Bool) (total count k : Nat) : Nat :=
  if downwards then k / ((total + count - 1) / count) else k % count

/-- The widths of columns; two blanks follow each but the last. -/
def columnWidths (downwards : Bool) (cells : List Cell) (count : Nat) : List Nat :=
  let total := cells.length
  cells.zipIdx.foldl
    (fun widths (c, k) =>
      let column := columnOf downwards total count k
      widths.modify column (max (c.width + if column + 1 = count then 0 else 2)))
    (List.replicate count narrowest)

/-- The widths of as many columns as fit into a line of this length. -/
def fittingWidths (downwards : Bool) (length : Nat) (cells : List Cell) : List Nat :=
  let most := min cells.length ((length + narrowest - 1) / narrowest)
  let tried := (List.range most).reverse.map fun k => columnWidths downwards cells (k + 1)
  let fits (widths : List Nat) : Bool :=
    widths.all (· = narrowest) || widths.foldl (· + ·) 0 < length
  (tried.find? fits).getD [0]

/-- A line of texts in columns of these widths, from a place on. -/
def row (tab : Nat) : Nat → List Nat → List Cell → String
  | _, _, [] => ""
  | _, _, [c] => c.text
  | place, w :: widths, c :: rest =>
    let stop := place + w
    c.text ++ String.ofList (gap tab (stop + 1) (place + c.width) stop) ++ row tab stop widths rest
  | _, [], c :: _ => c.text

/-- The cells that stand `distance` places apart, from the first one on. -/
def everyNth (distance : Nat) (cells : List Cell) : List Cell :=
  cells.zipIdx.filterMap fun (c, k) => if k % distance = 0 then some c else none

/-- Texts in columns, as many as fit. -/
def inColumns (downwards : Bool) (tab length : Nat) (lineEnd : String) (cells : List Cell) :
    String :=
  let widths := fittingWidths downwards length cells
  let count := widths.length
  let rows := (cells.length + count - 1) / count
  let line (k : Nat) : List Cell :=
    if downwards then everyNth rows (cells.drop k) else (cells.drop (k * count)).take count
  String.join ((List.range rows).map fun k => row tab 0 widths (line k) ++ lineEnd)

end Cell

end Suite.Shell
