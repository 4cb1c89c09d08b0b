import RequestRouter.Routing.Route

/-!
# Reports of commands

Routes are listed in columns, whose widths are counted in characters.
-/

/-! ## Text in columns -/

namespace RequestRouter.Text

/-- A text filled up with spaces to at least `width` characters. -/
def padRight (width : Nat) (text : String) : String :=
  text ++ String.ofList (List.replicate (width - text.length) ' ')

/-- The widest of some texts, at least `least`. -/
def widest (least : Nat) (texts : List String) : Nat :=
  texts.foldl (fun width text => max width text.length) least

end RequestRouter.Text

/-! ## Listings -/

namespace RequestRouter.Report

/-- The name of a handler as it is listed, with the name of its route if that has one. -/
def handlerText (route : Route) : String :=
  match route.name with
  | some name =>
    if name.isEmpty then route.handler.displayName
    else route.handler.displayName ++ " (" ++ name ++ ")"
  | none => route.handler.displayName

structure Row where
  methods : String
  pattern : String
  expression : String
  handler : String

def Row.ofRoute (route : Route) : Row :=
  ⟨route.methodsText ", ", route.pattern, route.expression, handlerText route⟩

def head : Row := ⟨"METHOD", "PATTERN", "EXPRESSION", "HANDLER"⟩

def maxRule : Nat := 100

def width (rows : List Row) (column : Row → String) : Nat :=
  Text.widest (column head).length (rows.map column)

/-- A row as a line, in columns of the widths that the rows need. -/
def Row.line (rows : List Row) (row : Row) : String :=
  Text.padRight (width rows Row.methods) row.methods ++ "  " ++
    Text.padRight (width rows Row.pattern) row.pattern ++ "  " ++
    Text.padRight (width rows Row.expression) row.expression ++ "  " ++ row.handler ++ "\n"

/-- The line under the heads is as long as the longest row, within a limit. -/
def rule (rows : List Row) : String :=
  let length := width rows Row.methods + width rows Row.pattern + width rows Row.expression + 6 +
    Text.widest 0 (rows.map Row.handler)
  String.ofList (List.replicate (min length maxRule) '-') ++ "\n"

def table (routes : List Route) : String :=
  if routes.isEmpty then "No routes registered.\n"
  else
    let rows := routes.map Row.ofRoute
    head.line rows ++ rule rows ++ String.join (rows.map (Row.line rows))

/-- The values of a match, one a line. -/
def valueLines (values : Entries String String) : String :=
  let width := Text.widest 0 (values.map (·.1))
  String.join (values.map fun (name, value) =>
    "  " ++ Text.padRight width name ++ " = " ++ Text.quote value ++ "\n")

/-- The route that a request hits, with its values. -/
def found (route : Route) (values : Entries String String) : String :=
  "route:   " ++ route.methodsText ", " ++ " " ++ route.pattern ++ "\n" ++
    "handler: " ++ route.handler.displayName ++ "\n" ++
    if values.isEmpty then "params:  (none)\n" else "params:\n" ++ valueLines values

end RequestRouter.Report
