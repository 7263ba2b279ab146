import Tenantory.QueryPlatform

/-! Slugs. `generateSlug` lower-cases and decomposes a text, keeps letters, digits
and hyphens, and puts one hyphen where the text had space. -/

namespace Tenantory
namespace SlugText

/-- The class `\s` of a regular expression. -/
def isSpace (c : Char) : Bool :=
  let n := c.toNat
  (9 ≤ n && n ≤ 13) || n == 0x20 || n == 0xa0 || n == 0x1680 ||
    (0x2000 ≤ n && n ≤ 0x200a) ||
    n == 0x2028 || n == 0x2029 || n == 0x202f || n == 0x205f || n == 0x3000 || n == 0xfeff

def isAccent (c : Char) : Bool := 0x300 ≤ c.toNat && c.toNat ≤ 0x36f

def isSlugChar (c : Char) : Bool := ('a' ≤ c && c ≤ 'z') || ('0' ≤ c && c ≤ '9')

/-- One hyphen for each run of characters in `p`. -/
def hyphenate (p : Char → Bool) : List Char → List Char
  | [] => []
  | c :: rest =>
      if p c then
        if (rest.head?).any p then hyphenate p rest else '-' :: hyphenate p rest
      else c :: hyphenate p rest

def trimHyphens (text : List Char) : List Char :=
  ((text.dropWhile (· == '-')).reverse.dropWhile (· == '-')).reverse

def generateSlug (platform : Platform) (input : String) : String :=
  let decomposed := (platform.normalizeNFD (platform.toLowerCase input)).toList
  let stripped := decomposed.filter fun c => !isAccent c
  let kept := stripped.filter fun c => isSlugChar c || isSpace c || c == '-'
  String.ofList (trimHyphens (hyphenate (· == '-') (hyphenate isSpace kept)))

end SlugText
end Tenantory
