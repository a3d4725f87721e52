import ResourceScript.Text.Basic

/-!
# Credentials and their references

A credential is a user name with an optional password.  A configuration never holds the password:
it refers to a credential by a variable whose name is derived from the user name.

## Main definitions

* `Credential` : a user name and an optional password.
* `Credential.accountName` : the user name without its domain.
* `Credential.underscoreSeparators` : a text with underscores for its separators.
* `Credential.isReference` : whether a text is a reference already.
* `Credential.referenceName` : the variable that stands for a user.
-/

namespace ResourceScript

/-- A user name with an optional password. -/
structure Credential where
  username : Text
  password : Option Text := none
  deriving DecidableEq

namespace Credential

/-- What references begin with, unless the settings say otherwise. -/
def defaultReferencePrefix : Text := "$Creds".toList

/-- The part of a user name that names the account: the part after the first backslash, else the
part before the first at sign, else all of it. -/
def accountName (username : Text) : Text :=
  match Text.cutAt '\\' username with
  | (_, some account) => account
  | _ => (Text.cutAt '@' username).1

/-- Hyphens and dots as underscores. -/
def underscoreSeparators (s : Text) : Text :=
  Text.replaceChar '.' ['_'] (Text.replaceChar '-' ['_'] s)

/-- The variable that stands for a user: the common beginning, then the account name with hyphens
and dots as underscores and without blanks and at signs. -/
def referenceName (username lead : Text) : Text :=
  lead ++ Text.replaceChar '@' []
    (Text.replaceChar ' ' [] (underscoreSeparators (accountName username)))

/-- Whether a text is read as an existing reference. -/
def isReference (lead s : Text) : Bool := lead.isPrefixOf s

end Credential

end ResourceScript
