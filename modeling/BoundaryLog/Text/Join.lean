/-! # Joining texts

Texts put one after the other with a separator between each two. -/
set_option autoImplicit false
namespace BoundaryLog.Text

def joinWith (separator : String) : List String → String
  | [] => ""
  | [x] => x
  | x :: y :: rest => x ++ separator ++ joinWith separator (y :: rest)

theorem joinWith_cons_cons (separator x y : String) (rest : List String) :
    joinWith separator (x :: y :: rest) = x ++ separator ++ joinWith separator (y :: rest) := rfl

end BoundaryLog.Text
