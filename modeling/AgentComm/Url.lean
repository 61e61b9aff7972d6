import AgentComm.Python

/-!
# Request targets

`urlsplit` as far as the broker uses it: the path and the query of a request target, or the
`ValueError` of a bad network location.
-/

namespace AgentComm

namespace Url

def schemeChar (c : ℕ) : Bool :=
  (97 ≤ c && c ≤ 122) || (65 ≤ c && c ≤ 90) || (48 ≤ c && c ≤ 57) || c = 43 || c = 45 || c = 46

def isAlpha (c : ℕ) : Bool := (97 ≤ c && c ≤ 122) || (65 ≤ c && c ≤ 90)

/-- What follows a scheme, or all of it if it has none. -/
def dropScheme (url : PyStr) : PyStr :=
  match splitOnce 58 url with
  | (c :: s, some rest) => if isAlpha c && (c :: s).all schemeChar then rest else url
  | _ => url

/-- The network location after `//`, and the rest. -/
def splitNetloc (s : PyStr) : PyStr × PyStr :=
  (s.takeWhile fun c => !(c = 47 || c = 63 || c = 35),
    s.dropWhile fun c => !(c = 47 || c = 63 || c = 35))

variable (P : Python)

/-- `urlsplit(url).path` and `urlsplit(url).query` -/
def urlsplit (url : PyStr) : Except Exc (PyStr × PyStr) :=
  let url := (url.dropWhile (· ≤ 32)).filter fun c => !(c = 9 || c = 10 || c = 13)
  let url := dropScheme url
  let located : Except Exc PyStr :=
    match url with
    | 47 :: 47 :: s =>
      let (netloc, rest) := splitNetloc s
      if netloc.contains 91 ≠ netloc.contains 93 then
        .error ⟨.valueError, lit "Invalid IPv6 URL"⟩
      else if !P.netlocOk netloc then .error ⟨.valueError, lit "invalid netloc"⟩
      else .ok rest
    | s => .ok s
  located.map fun s =>
    let s := (splitOnce 35 s).1
    ((splitOnce 63 s).1, (splitOnce 63 s).2.getD [])

/-- `parse_qs(query).get(name, [default])[0]` -/
def queryGet (query name : PyStr) : Option PyStr :=
  (P.parseQsl query).find? (·.1 = name) |>.map Prod.snd

end Url

end AgentComm
