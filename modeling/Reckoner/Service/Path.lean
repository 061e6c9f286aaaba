import Reckoner.Text.Digit
import Reckoner.Text.Part

/-!
# Paths of requests

The target of a request leads to a path: what follows a question mark or a hash
is dropped, and so is the name of a host after two slashes. The path starts with
one slash; the names of the present and the outer level are resolved, escapes
are decoded, and slashes at the end do not count.
-/

namespace Reckoner.Service.Path

/-- The parts of a path with the names of the present and the outer level
resolved; the parts before are in reverse. The root has no outer level. -/
def resolve (before : List (List Char)) : List (List Char) → List (List Char)
  | [] => before.reverse
  | part :: rest =>
    if part = ['.'] then resolve before rest
    else if part = ['.', '.'] then
      resolve (if before = [[]] then before else before.drop 1) rest
    else resolve (part :: before) rest

/-- The text with its escapes replaced by the characters of their codes. -/
def decode : List Char → List Char
  | [] => []
  | '%' :: a :: b :: rest =>
    match Text.hexValue? a, Text.hexValue? b with
    | some m, some n => Char.ofNat (16 * m + n) :: decode rest
    | _, _ => '%' :: decode (a :: b :: rest)
  | c :: rest => c :: decode rest

/-- The target without the name of a host. -/
def withoutHost (cs : List Char) : List Char :=
  match cs with
  | '/' :: '/' :: rest => rest.dropWhile (· != '/')
  | _ => cs

/-- The path that a target leads to. -/
def ofTarget (target : String) : String :=
  let bare := withoutHost (target.toList.takeWhile fun c => c != '?' && c != '#')
  let rooted := '/' :: bare.dropWhile (· == '/')
  let path := decode (['/'].intercalate (resolve [] (Text.parts '/' rooted)))
  String.ofList (path.reverse.dropWhile (· == '/')).reverse

@[simp] theorem decode_nil : decode [] = [] := rfl

end Reckoner.Service.Path
