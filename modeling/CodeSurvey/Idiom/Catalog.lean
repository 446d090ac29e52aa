import CodeSurvey.Regex.Match

/-!
# Idioms

An idiom is a habit of structuring code that shows in the paths of files, in their text, or in both.
The catalog lists the idioms that a survey looks for.

## Main definitions

* `Idiom`: a name, a description, a piece of advice and what the idiom looks like.
* `Idiom.catalog`: all idioms, family by family.
-/

namespace CodeSurvey

/-- An idiom. Where neither files nor code are restricted, every file shows it. -/
structure Idiom where
  name : Text
  description : Text
  advice : Text
  /-- What the path of a file looks like. -/
  files : Option Regex
  /-- What the code looks like; without it the path alone counts. -/
  code : Option Regex

namespace Idiom

open Regex

/-! ## Parts of expressions -/

/-- A word followed by a capitalized name. -/
def before (spelling : String) : Regex := literal spelling ++ capitalized

/-- A name that begins with `use`. -/
def hookName : Regex := before "use"

/-- A parenthesis with what it holds, which is no closing parenthesis. -/
def parenthesis : Regex := literal "(" ++ many (· != ')') ++ literal ")"

/-- The arrow of a function. -/
def arrow : Regex := blanks ++ literal "=>"

/-- Parameters in a parenthesis, separated by commas that blanks may follow. -/
def parameters : List String → Regex
  | [] => literal ")"
  | [name] => literal name ++ literal ")"
  | name :: rest => literal name ++ literal "," ++ blanks ++ parameters rest

/-- An exported constant or function, up to its name. -/
def exported (kinds : List String) : Regex := word "export" ++ group 1 (oneOf kinds) ++ blanks1

/-- A folder of the given name, or of the name in the plural. -/
def folder (name : String) : Regex := literal name ++ opt (literal "s") ++ literal "/"

/-- A file somewhere in a folder of the given name or its plural. -/
def inside (name : String) (suffixes : List String) : Regex :=
  folder name ++ many isInline ++ endingIn suffixes

/-- An opening brace. -/
def brace : Regex := char (· == '\x7b')

/-- A decorator of a member at the beginning of a line. -/
def lineDecorator (rest : Regex) : Regex := lineStart ++ blanks ++ literal "@" ++ rest

/-! ## Families -/

/-- Idioms of React. -/
def react : List Idiom := [
  { name := "Custom React Hooks"
    description := "Reusable stateful logic using custom hooks"
    advice := "Custom hooks are a great way to share stateful logic between components"
    files := some (hookName ++ endingIn ["js", "ts", "jsx", "tsx"])
    code := some (exported ["const", "function"] ++ hookName ++ blanks ++
      char fun c => c == '=' || c == '(') },
  { name := "Higher-Order Components (HOC)"
    description := "Components that wrap other components to enhance functionality"
    advice := "HOCs are useful for cross-cutting concerns, but consider hooks for simpler cases"
    files := none
    code := some (before "with" ++ blanks ++ literal "=" ++ blanks ++ parenthesis ++ arrow ++
      blanks ++ parenthesis ++ arrow) },
  { name := "React Context Pattern"
    description := "Global state management using React Context"
    advice := "Context is great for avoiding prop drilling, but be mindful of performance"
    files := none
    code := some (oneOf ["createContext", "useContext"] ++ call) },
  { name := "Component Composition"
    description := "Building complex UIs by composing simpler components"
    advice := "Composition is preferred over inheritance in React"
    files := none
    code := some ((literal "children" ++ blanks ++ char fun c => c == ':' || c == '\x7d') <|>
      oneOf ["React.Children", "cloneElement"]) }]

/-- Idioms of Vue. -/
def vue : List Idiom := [
  { name := "Vue Composition API"
    description := "Using setup() function and composition functions"
    advice := "Composition API provides better TypeScript support and code reusability"
    files := some (endingIn ["vue", "js", "ts"])
    code := some ((literal "setup" ++ call ++ blanks ++ literal ")") <|>
      (wordEdge ++ oneOf ["ref", "reactive", "computed"] ++ call)) },
  { name := "Vue Composables"
    description := "Reusable composition functions"
    advice := "Composables are the Vue 3 equivalent of custom hooks"
    files := some ((literal "composables/" ++ many isInline ++ endingIn ["js", "ts"]) <|>
      (hookName ++ endingIn ["js", "ts"]))
    code := some (exported ["const", "function"] ++ hookName) }]

/-- Idioms of servers and their routes. -/
def routing : List Idiom := [
  { name := "Express Middleware Pattern"
    description := "Functions that execute during request-response cycle"
    advice := "Middleware is essential for cross-cutting concerns in Express"
    files := none
    code := some (literal "(" ++ parameters ["req", "res", "next"] ++ arrow) },
  { name := "Express Route Handlers"
    description := "Routes and middleware registered on an app or router"
    advice := "Group related routes into routers and keep handlers thin"
    files := some (endingIn ["js", "ts", "mjs", "cjs"])
    code := some (wordEdge ++ group 1 (oneOf ["app", "router"]) ++ literal "." ++
      group 2 (oneOf ["get", "post", "put", "delete", "patch", "use"]) ++ call) },
  { name := "Route Decorators"
    description := "HTTP handlers registered through framework route decorators"
    advice := "Keep decorated handlers thin and move logic into services"
    files := some (endingIn ["py"])
    code := some (lineDecorator (many1 Text.isWord ++ literal "." ++
      group 1 (oneOf ["get", "post", "put", "delete", "patch", "route"]) ++ call)) },
  { name := "Route Controllers"
    description := "Separating route logic into controller functions"
    advice := "Controllers help organize and test route logic"
    files := some (inside "controller" ["js", "ts"])
    code := some ((literal "export" ++ opt (literal "s") ++ literal "." ++ many1 isLetter ++
        blanks ++ literal "=") <|>
      (exported ["const", "function"] ++ many1 isLetter)) },
  { name := "Error Handling Middleware"
    description := "Centralized error handling in Express"
    advice := "Centralized error handling improves maintainability"
    files := none
    code := some (literal "(" ++ parameters ["err", "req", "res", "next"] ++ arrow) }]

/-- Idioms of tests. -/
def testing : List Idiom := [
  { name := "Page Object Model"
    description := "Encapsulating page interactions in test objects"
    advice := "Page Object Model improves test maintainability"
    files := some (inside "page" ["js", "ts"] <|> (literal ".page" ++ endingIn ["js", "ts"]))
    code := some ((word "class" ++ capitalized ++ literal "Page") <|>
      (exported ["class", "const"] ++ capitalized ++ literal "Page")) },
  { name := "Test Factory Pattern"
    description := "Functions that create test data objects"
    advice := "Factories make tests more readable and maintainable"
    files := some (inside "factorie" ["js", "ts", "py"] <|>
      (literal ".factory" ++ endingIn ["js", "ts"]))
    code := some (oneOf ["create", "build", "make"] ++ capitalized) },
  { name := "Test Utilities"
    description := "Helper functions for testing"
    advice := "Test utilities reduce duplication in test code"
    files := some (oneOf ["test-utils", "testing-utils", "spec-helpers"])
    code := some (oneOf ["render", "setup", "mock"] ++ capitalized) },
  { name := "Pytest Fixtures"
    description := "Shared test setup expressed as pytest fixtures"
    advice := "Fixtures keep test setup reusable and explicit"
    files := some (endingIn ["py"])
    code := some (literal "@pytest.fixture") }]

/-- Idioms of design. -/
def design : List Idiom := [
  { name := "Singleton Pattern"
    description := "Ensuring only one instance of a class exists"
    advice := "Be cautious with singletons as they can make testing difficult"
    files := none
    code := some ((word "class" ++ capitalized ++ fewest (fun _ => true) ++ word "private" ++
        word "static" ++ literal "instance") <|>
      (literal "getInstance" ++ call ++ blanks ++ literal ")")) },
  { name := "Factory Pattern"
    description := "Creating objects without specifying exact classes"
    advice := "Factories provide flexibility in object creation"
    files := none
    code := some ((before "create" ++ call) <|> (capitalized ++ literal "Factory")) },
  { name := "Observer Pattern"
    description := "Objects watching and reacting to state changes"
    advice := "Observer pattern is great for loose coupling between components"
    files := none
    code := some (oneOf ["addEventListener", "removeEventListener"] <|>
      (wordEdge ++ literal "subscribe") <|> (wordEdge ++ literal "unsubscribe") <|>
      (wordEdge ++ literal "emit" ++ wordEdge) <|> (wordEdge ++ literal "on" ++ call)) },
  { name := "Strategy Pattern"
    description := "Encapsulating algorithms and making them interchangeable"
    advice := "Strategy pattern promotes code reusability and testing"
    files := none
    code := some ((literal "Strategy" ++ blanks ++ brace) <|>
      (word "implements" ++ many isInline ++ literal "Strategy") <|>
      (word "extends" ++ many isInline ++ literal "Strategy")) },
  { name := "Dataclass Models"
    description := "Plain data containers declared with dataclasses"
    advice := "Prefer frozen dataclasses for values passed between layers"
    files := some (endingIn ["py"])
    code := some (lineDecorator (literal "dataclass" ++ wordEdge)) }]

/-- Idioms of architecture. -/
def architecture : List Idiom := [
  { name := "Model-View-Controller (MVC)"
    description := "Separating concerns into models, views, and controllers"
    advice := "MVC helps organize code and separate concerns"
    files := some (folder "model" <|> folder "view" <|> folder "controller")
    code := none },
  { name := "Repository Pattern"
    description := "Abstracting data access logic"
    advice := "Repository pattern makes data access testable and swappable"
    files := some (inside "repositorie" ["js", "ts", "py"] <|>
      (literal "Repository" ++ endingIn ["js", "ts"]))
    code := some ((word "class" ++ capitalized ++ literal "Repository") <|>
      (literal "Repository" ++ blanks ++ brace)) },
  { name := "Service Layer Pattern"
    description := "Encapsulating business logic in service classes"
    advice := "Service layer helps organize business logic"
    files := some (inside "service" ["js", "ts", "py"] <|>
      (literal "Service" ++ endingIn ["js", "ts"]))
    code := some ((word "class" ++ capitalized ++ literal "Service") <|>
      (literal "Service" ++ blanks ++ brace)) },
  { name := "Dependency Injection"
    description := "Injecting dependencies rather than creating them internally"
    advice := "Dependency injection improves testability and flexibility"
    files := none
    code := some ((literal "constructor" ++ call ++ many (· != ')') ++ capitalized ++
        many (· != ')') ++ literal ")") <|>
      oneOf ["@Inject", "@Injectable"]) }]

/-- Idioms of access to data. -/
def dataAccess : List Idiom := [
  { name := "ORM/ODM Pattern"
    description := "Object-relational mapping for database operations"
    advice := "ORMs can simplify database operations but watch for N+1 queries"
    files := none
    code := some (oneOf
      [".findOne(", ".findMany(", ".create(", ".update(", ".delete(", "Model."]) },
  { name := "Database Migrations"
    description := "Version-controlled database schema changes"
    advice := "Migrations help manage database schema changes across environments"
    files := some (folder "migration")
    code := none },
  { name := "Database Seeding"
    description := "Populating database with initial or test data"
    advice := "Seeding helps maintain consistent test and development data"
    files := some (folder "seed" <|> folder "seeder")
    code := some (oneOf ["seed", "createMany"] ++ call) }]

/-- Idioms of security. -/
def security : List Idiom := [
  { name := "Authentication Middleware"
    description := "Protecting routes with authentication checks"
    advice := "Always validate authentication on protected routes"
    files := none
    code := some (oneOf ["requireAuth", "isAuthenticated", "checkAuth", "authenticate"]) },
  { name := "Input Validation"
    description := "Validating and sanitizing user input"
    advice := "Always validate input to prevent security vulnerabilities"
    files := none
    code := some (oneOf ["validate", "sanitize", "Joi.", "yup.", "zod."]) },
  { name := "Rate Limiting"
    description := "Limiting request frequency to prevent abuse"
    advice := "Rate limiting helps prevent abuse and DDoS attacks"
    files := none
    code := some (oneOf ["rateLimit", "rateLimiter", "express-rate-limit"]) }]

/-- All idioms. -/
def catalog : List Idiom :=
  react ++ vue ++ routing ++ testing ++ design ++ architecture ++ dataAccess ++ security

end Idiom
end CodeSurvey
