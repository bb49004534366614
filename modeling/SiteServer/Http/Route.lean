import SiteServer.Http.Form
import SiteServer.Http.Request
import SiteServer.Store.Session

/-!
# Choosing a document

The first character of a path's last segment may stand for a page of the site.
When a form is posted to a segment that begins with `2` or `3` it is acted on, a
login or a registration, and the outcome chooses the page.
-/

namespace SiteServer
namespace Http
namespace Route

def registerPage : String := "/register.html"
def loginPage : String := "/log.html"
def picturePage : String := "/picture.html"
def videoPage : String := "/video.html"
def fansPage : String := "/fans.html"
def welcomePage : String := "/welcome.html"
def loginFailedPage : String := "/logError.html"
def registerFailedPage : String := "/registerError.html"

/-- What a posted form asks for. -/
inductive Action where
  | login
  | register
  deriving DecidableEq, Repr

/-- The page for an action that did not succeed. -/
def Action.failurePage : Action → String
  | .login => loginFailedPage
  | .register => registerFailedPage

/-- The action a first character stands for. -/
def action? : Option Char → Option Action
  | some '2' => some .login
  | some '3' => some .register
  | _ => none

/-- The name and the password in the body of a request. -/
def form? (r : Request) : Option (String × String) :=
  (r.bodyText?.bind Form.credentials?).map fun (user, password) =>
    (String.ofList user, String.ofList password)

variable {σ : Type} [Store.UserStore σ]

/-- Acts on a form and chooses the page that tells the outcome. -/
def act (a : Action) (r : Request) (s : σ) : String × σ :=
  match form? r with
  | none => (a.failurePage, s)
  | some (user, password) =>
    match a with
    | .login =>
      (if Store.UserStore.password? s user = some password then welcomePage
        else loginFailedPage, s)
    | .register =>
      match Store.UserStore.insert s user password with
      | (.ok (), s) => (loginPage, s)
      | (.error _, s) => (registerFailedPage, s)

/-- The page a first character stands for, or else the path itself. -/
def page (first : Option Char) (path : String) : String :=
  match first with
  | some '0' => registerPage
  | some '1' => loginPage
  | some '5' => picturePage
  | some '6' => videoPage
  | some '7' => fansPage
  | _ => path

/-- The document for a request, after acting on its form if it carries one. -/
def route (r : Request) (s : σ) : String × σ :=
  let first := r.lastSegment.head?
  match r.method, action? first with
  | .post, some a => act a r s
  | _, _ => (page first r.path, s)

end Route
end Http
end SiteServer
