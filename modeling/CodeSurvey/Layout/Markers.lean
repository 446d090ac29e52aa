import CodeSurvey.Text.Basic

/-!
# What layouts are told by

The files and packages by which the kind of a project, its architecture and its tools are told. A
marker with a slash at its end asks for a folder.

## Main definitions

* `ProjectKind` with `markers`, `packages` and `pythonPackages`.
* `Architecture`, `architectureRules`.
* The tables of build systems, package managers, test frameworks, documents and important files.
-/

namespace CodeSurvey

/-! ## Kinds of projects -/

/-- What a project is for. -/
inductive ProjectKind where
  | frontend
  | backend
  | mobile
  | desktop
  | library
deriving Repr, DecidableEq

/-- The kinds, those that win a draw first. -/
def ProjectKind.all : List ProjectKind := [.frontend, .backend, .mobile, .desktop, .library]

/-- The name of a kind. -/
def ProjectKind.name : ProjectKind → Text
  | .frontend => "frontend"
  | .backend => "backend"
  | .mobile => "mobile"
  | .desktop => "desktop"
  | .library => "library"

/-- Files and folders that show a kind. -/
def ProjectKind.markers : ProjectKind → List Text
  | .frontend => ["src/App.jsx", "src/App.tsx", "src/App.vue", "pages/_app.js",
    "public/index.html", "src/components", "components/"]
  | .backend => ["server.js", "app.js", "src/server.js", "routes/", "controllers/", "middleware/",
    "api/", "src/api/", "manage.py", "wsgi.py", "asgi.py"]
  | .mobile => ["App.js", "App.tsx", "android/", "ios/", "lib/main.dart"]
  | .desktop => ["src-tauri/", "public/electron.js"]
  | .library => ["lib/", "src/index.ts", "dist/", "rollup.config.js", "lib/index.js", "setup.py"]

/-- Node packages that show a kind. -/
def ProjectKind.packages : ProjectKind → List Text
  | .frontend => ["react", "vue", "angular", "svelte", "@angular/core"]
  | .backend => ["express", "fastify", "koa", "nestjs", "hapi"]
  | .mobile => ["react-native", "flutter", "ionic", "@react-native/metro-config"]
  | .desktop => ["electron", "tauri", "nwjs"]
  | .library => ["rollup", "microbundle", "tsdx"]

/-- Python packages that show a kind. -/
def ProjectKind.pythonPackages : ProjectKind → List Text
  | .backend => ["django", "flask", "fastapi", "tornado", "pyramid"]
  | .mobile => ["kivy"]
  | .desktop => ["pyqt5", "pyqt6", "pyside6"]
  | _ => []

/-! ## Architectures -/

/-- How a project is put together. -/
inductive Architecture where
  | microservices
  | serverless
  | jamstack
  | mvc
  | monolith
deriving Repr, DecidableEq

/-- The name of an architecture. -/
def Architecture.name : Architecture → Text
  | .microservices => "microservices"
  | .serverless => "serverless"
  | .jamstack => "jamstack"
  | .mvc => "mvc"
  | .monolith => "monolith"

/-- An architecture, its markers and the packages that count as two markers together. -/
structure ArchitectureRule where
  architecture : Architecture
  markers : List Text
  packages : List Text
deriving Repr, DecidableEq

/-- What architectures are told by; the first that has two marks is taken. -/
def architectureRules : List ArchitectureRule := [
  ⟨.microservices, ["docker-compose.yml", "kubernetes/", "k8s/", "services/", "microservices/"],
    []⟩,
  ⟨.serverless, ["serverless.yml", "netlify.toml", "vercel.json", "functions/", "lambda/",
    "api/"], ["serverless", "@serverless/compose", "zappa", "chalice"]⟩,
  ⟨.jamstack, ["static/", "public/", "_site/", "dist/", "gatsby-config.js", "next.config.js",
    "nuxt.config.js"], ["next", "gatsby", "nuxt"]⟩,
  ⟨.mvc, ["models/", "views/", "controllers/", "app/models/", "app/views/", "app/controllers/"],
    []⟩]

/-! ## Tools -/

/-- Build systems and their files. -/
def buildSystemFiles : List (Text × List Text) := [
  ("Webpack", ["webpack.config.js", "webpack.config.ts"]),
  ("Vite", ["vite.config.js", "vite.config.ts"]),
  ("Rollup", ["rollup.config.js", "rollup.config.ts"]),
  ("Parcel", [".parcelrc", "parcel.config.js"]),
  ("ESBuild", ["esbuild.config.js"]),
  ("Gulp", ["gulpfile.js", "gulpfile.ts"]),
  ("Grunt", ["Gruntfile.js"]),
  ("Make", ["Makefile"]),
  ("Bazel", ["BUILD", "WORKSPACE"]),
  ("Rush", ["rush.json"]),
  ("Lerna", ["lerna.json"]),
  ("Nx", ["nx.json", "workspace.json"]),
  ("Maven", ["pom.xml"]),
  ("Gradle", ["build.gradle", "build.gradle.kts"]),
  ("Cargo", ["Cargo.toml"]),
  ("setuptools", ["setup.py", "setup.cfg"]),
  ("Poetry", ["poetry.lock"])]

/-- Build systems and the words in package scripts that show them. -/
def scriptBuildSystems : List (Text × Text) :=
  [("Webpack", "webpack"), ("Vite", "vite"), ("Rollup", "rollup"), ("Parcel", "parcel")]

/-- Package managers for Node and their lock files. -/
def lockFiles : List (Text × Text) := [
  ("npm", "package-lock.json"),
  ("yarn", "yarn.lock"),
  ("pnpm", "pnpm-lock.yaml"),
  ("bun", "bun.lockb")]

/-- Other package managers and their files. -/
def packageManagerFiles : List (Text × List Text) := [
  ("poetry", ["poetry.lock"]),
  ("pipenv", ["Pipfile.lock"]),
  ("pip", ["requirements.txt", "Pipfile"]),
  ("conda", ["environment.yml", "conda.yml"]),
  ("maven", ["pom.xml"]),
  ("gradle", ["build.gradle", "build.gradle.kts"]),
  ("composer", ["composer.json"]),
  ("cargo", ["Cargo.toml"]),
  ("go mod", ["go.mod"])]

/-- Test frameworks and their Node packages. -/
def testPackages : List (Text × List Text) := [
  ("Jest", ["jest", "@types/jest"]),
  ("Vitest", ["vitest"]),
  ("Mocha", ["mocha"]),
  ("Jasmine", ["jasmine"]),
  ("Cypress", ["cypress"]),
  ("Playwright", ["@playwright/test"]),
  ("Puppeteer", ["puppeteer"]),
  ("Testing Library", ["@testing-library/react", "@testing-library/vue"]),
  ("Enzyme", ["enzyme"]),
  ("Karma", ["karma"]),
  ("Protractor", ["protractor"])]

/-- Test frameworks and their Python packages. -/
def testPythonPackages : List (Text × List Text) := [
  ("pytest", ["pytest"]),
  ("nose2", ["nose2"]),
  ("Hypothesis", ["hypothesis"])]

/-- Test frameworks and their files. -/
def testFiles : List (Text × List Text) := [
  ("Jest", ["jest.config.js", "jest.config.ts"]),
  ("Cypress", ["cypress.config.js", "cypress.config.ts"]),
  ("Playwright", ["playwright.config.ts"]),
  ("Vitest", ["vitest.config.ts", "vitest.config.js"]),
  ("pytest", ["pytest.ini", "conftest.py", "tests/conftest.py"])]

/-! ## Documents -/

/-- Files that introduce a project. -/
def readmeFiles : List Text := [
  "README.md", "readme.md", "README.txt", "README.rst"]

/-- Further documents. -/
def auxiliaryDocs : List Text := [
  "CHANGELOG.md", "CONTRIBUTING.md", "LICENSE", "CODE_OF_CONDUCT.md", "SECURITY.md", "API.md",
  "docs/", "documentation/"]

/-- The suffixes of the files whose comments are counted as documentation. -/
def sampledSuffixes : List Text := [
  ".js", ".ts", ".jsx", ".tsx", ".py", ".java", ".cs", ".go", ".rs", ".php", ".rb"]

/-- Files that configure, build or deliver a project. -/
def configurationFiles : List Text := [
  "package.json", "tsconfig.json", "webpack.config.js", "vite.config.ts", "next.config.js",
  "nuxt.config.js", "vue.config.js", "angular.json", "jest.config.js", "cypress.config.js",
  "tailwind.config.js", "postcss.config.js", ".eslintrc.js", ".prettierrc", "pyproject.toml",
  "setup.py", "setup.cfg", "requirements.txt", "Pipfile", "tox.ini", "Dockerfile",
  "docker-compose.yml", ".dockerignore", "schema.prisma", "prisma/schema.prisma",
  ".github/workflows", ".gitlab-ci.yml", "Jenkinsfile"]

/-- Files at which a program or an interface begins. -/
def entryPoints : List Text := [
  "src/index.js", "src/index.ts", "src/main.js", "src/main.ts", "src/App.js", "src/App.ts",
  "src/App.jsx", "src/App.tsx", "src/App.vue", "pages/_app.js", "pages/_app.ts", "server.js",
  "server.ts", "app.js", "app.ts", "index.js", "index.ts", "main.js", "main.ts", "manage.py",
  "main.py", "app.py", "wsgi.py", "asgi.py"]

/-- Files that a reader opens first. -/
def introductions : List Text := [
  "README.md", "CHANGELOG.md", "CONTRIBUTING.md", "LICENSE", "docs/README.md",
  "documentation/README.md"]

/-- Files that are listed as important where they are present. -/
def importantFiles : List Text := configurationFiles ++ entryPoints ++ introductions

end CodeSurvey
