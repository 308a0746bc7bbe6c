/-! # Request methods

* `Method`: a method is any non-empty run of method characters; no list of known ones is kept.
* `Method.ofString?`: the method with a given name.
-/

namespace Liveness.Http
set_option autoImplicit false

/-- Letters, digits and the marks that may stand in the name of a method. -/
def isMethodChar (c : Char) : Bool :=
  c.isAlphanum || ['!', '*', '+', '-', '.', '^', '_', '\x60', '|', '~'].contains c

/-- Whether a text can name a method. -/
def isMethodName (text : String) : Bool :=
  !text.toList.isEmpty && text.toList.all isMethodChar

/-- The method of a request. -/
@[ext]
structure Method where
  name : String
  isMethodName_name : isMethodName name = true
  deriving DecidableEq

namespace Method

/-- The method with a given name. -/
def ofString? (text : String) : Option Method :=
  if h : isMethodName text = true then some ⟨text, h⟩ else none

/-- The method whose responses carry no body on a connection. -/
def head : Method := ⟨"HEAD", by decide⟩

/-- The method that asks for a tunnel. -/
def connect : Method := ⟨"CONNECT", by decide⟩

theorem ofString?_eq_some {text : String} {m : Method} (h : ofString? text = some m) :
    m.name = text := by
  unfold ofString? at h
  split at h
  · simp only [Option.some.injEq] at h; rw [← h]
  · cases h

end Method
end Liveness.Http
