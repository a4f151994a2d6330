import FilterChain.Function
import FilterChain.Text

/-!
# Built-in functions

`get` reads a field, `split` cuts a text at a delimiter and drops empty fragments, and `join`
glues the items of an array together.  The others read the request, which is expected to be an
object with the fields `query`, `headers` and `url`.

In a URL the authority stands behind a scheme and `://`, and a slash ends it.  The path ends where
a query or a fragment starts.
-/

namespace FilterChain

/-! ## The path of a URL -/

def startsQuery (c : Char) : Bool := c == '?' || c == '#'

/-- A text up to its query or fragment. -/
def beforeQuery (text : List Char) : List Char :=
  text.takeWhile fun c => !startsQuery c

/-- The path of a URL.  A URL with an authority and no path has the path `/`; a text
without an authority may have none. -/
def pathname (url : List Char) : Option (List Char) :=
  let path := match cutAt [':', '/', '/'] url with
    | none => beforeQuery url
    | some (_, rest) =>
      match rest.dropWhile fun c => c != '/' && !startsQuery c with
      | '/' :: more => beforeQuery ('/' :: more)
      | _ => ['/']
  if path.isEmpty then none else some path

/-! ## Functions on the request -/

namespace Function

/-- The request in a context, which must be useful. -/
def request (context : Context) : Except FilterError Value :=
  match context.request?.filter Value.isTruthy with
  | some request => .ok request
  | none => .error (.type .noRequest)

/-- A field of the request, or null. -/
def requestField (name : String) (context : Context) : Except FilterError Value :=
  (request context).map fun request => (request.lookup name).getD .null

def query : Context → Except FilterError Value := requestField "query"

def headers : Context → Except FilterError Value := requestField "headers"

def url : Context → Except FilterError Value := requestField "url"

/-- The path of the request's URL, or null. -/
def path (context : Context) : Except FilterError Value :=
  (url context).map fun
    | .string url => ((pathname url.toList).map fun path => .string (String.ofList path)).getD .null
    | _ => .null

/-! ## Functions on fields and texts -/

/-- `get('name')` reads one field of the previous value. -/
def get (previous : Value) (arguments : List Value) : Except FilterError Value :=
  if previous.isTruthy then
    match arguments.head?.filter Value.isTruthy with
    | some name => .ok ((previous.field name.display).getD .null)
    | none => .error (.type .getOfNoName)
  else .error (.type .getOfNothing)

/-- The fragments between the occurrences of a delimiter; those of the empty delimiter are
the single characters. -/
def fragments (delimiter text : List Char) : List (List Char) :=
  match delimiter with
  | [] => text.map fun c => [c]
  | first :: others => pieces first others text

/-- The argument of a function, unless it is missing or null. -/
def argument? (arguments : List Value) : Option Value :=
  match arguments.head? with
  | none | some .null => none
  | some value => some value

/-- `split(',')` cuts a text; without a delimiter the text is the only fragment. -/
def split (previous : Value) (arguments : List Value) : Except FilterError Value :=
  match previous with
  | .string text =>
    let all := match argument? arguments with
      | none => [text.toList]
      | some delimiter => fragments delimiter.display.toList text.toList
    let kept := all.filter fun fragment => !fragment.isEmpty
    .ok (.array (kept.map fun fragment => .string (String.ofList fragment)))
  | _ => .error (.type .splitOfOther)

/-- `join(' ')` glues the items of an array together, by default with commas; a string is
passed on. -/
def join (previous : Value) (arguments : List Value) : Except FilterError Value :=
  match previous with
  | .string text => .ok (.string text)
  | .array items =>
    let glue := match argument? arguments with
      | none => ","
      | some glue => glue.display
    .ok (.string (String.intercalate glue (items.map Value.display)))
  | _ => .error (.type .joinOfOther)

end Function

end FilterChain
