/-!
# Tables

A table has a title, a head and rows, in a frame of lines.  The columns are as wide as their
widest cell.
-/

namespace StillMotion.Table

def padRight (width : Nat) (s : String) : String :=
  s ++ String.ofList (List.replicate (width - s.length) ' ')

def centered (width : Nat) (s : String) : String :=
  let space := width - s.length
  padRight width (String.ofList (List.replicate (space / 2) ' ') ++ s)

def widths (rows : List (List String)) : List Nat :=
  rows.foldl (fun widths row =>
    let cells := row.map String.length
    let both := List.zipWith max widths cells
    both ++ widths.drop both.length ++ cells.drop both.length) []

def rule (left fill middle right : String) (widths : List Nat) : String :=
  let parts := widths.map fun width => String.join (List.replicate (width + 2) fill)
  left ++ middle.intercalate parts ++ right

def rowLine (bar : String) (widths : List Nat) (cells : List String) : String :=
  let parts := List.zipWith (fun width cell => " " ++ padRight width cell ++ " ") widths cells
  bar ++ bar.intercalate parts ++ bar

def lines (title : String) (head : List String) (rows : List (List String)) : List String :=
  let widths := widths (head :: rows)
  let total := widths.foldl (fun sum width => sum + width + 3) 1
  [centered total title, rule "┏" "━" "┳" "┓" widths, rowLine "┃" widths head,
    rule "┡" "━" "╇" "┩" widths] ++
    rows.map (rowLine "│" widths) ++ [rule "└" "─" "┴" "┘" widths]

end StillMotion.Table
