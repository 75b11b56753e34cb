import TomtitAgent.Python.Str

/-!
# Letter case

`CaseMap` is `str.upper` and `str.lower`, which map ASCII text letter by letter; `asciiCase` maps
nothing else.
-/

namespace Py

def asciiUpper (c : CodePoint) : CodePoint := if isLower c then Fin.ofNat _ (c.val - 32) else c
def asciiLower (c : CodePoint) : CodePoint := if isUpper c then Fin.ofNat _ (c.val + 32) else c

structure CaseMap where
  upper : PyStr → PyStr
  lower : PyStr → PyStr
  upper_ascii : ∀ s, Ascii s → upper s = s.map asciiUpper
  lower_ascii : ∀ s, Ascii s → lower s = s.map asciiLower

def asciiCase : CaseMap where
  upper s := s.map asciiUpper
  lower s := s.map asciiLower
  upper_ascii _ _ := rfl
  lower_ascii _ _ := rfl

end Py
