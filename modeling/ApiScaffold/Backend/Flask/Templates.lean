/-
The templates of a Flask server.
-/
import ApiScaffold.Backend.Markup

namespace ApiScaffold.Backend.Flask

/-- The packages that the server needs. -/
def requirements : String := lines [
  "flask >= 2.3",
  "python_dateutil >= 2.8",
  "setuptools >= 65"]

/-- A container of the server. -/
def dockerfile : String := lines [
  "FROM python:3.11-alpine",
  "",
  "RUN mkdir -p /usr/src/app",
  "WORKDIR /usr/src/app",
  "",
  "COPY requirements.txt /usr/src/app/",
  "RUN pip3 install --no-cache-dir -r requirements.txt",
  "",
  "COPY . /usr/src/app",
  "",
  "EXPOSE 8080",
  "",
  "ENTRYPOINT [\"python3\"]",
  "CMD [\"-m\", \"" ++ out "cfg.server_name" ++ "\"]"]

/-- The package of the server. -/
def setup : String := lines [
  "from setuptools import find_packages, setup",
  "",
  "NAME = \"" ++ out "cfg.server_name" ++ "\"",
  "VERSION = \"" ++ out "info.version" ++ "\"",
  "",
  "REQUIRES = [",
  "    \"flask>=2.3\",",
  "    \"python_dateutil>=2.8\",",
  "]",
  "",
  "setup(",
  "    name=NAME,",
  "    version=VERSION,",
  "    description=\"" ++ out "info.title" ++ "\",",
  "    install_requires=REQUIRES,",
  "    packages=find_packages(),",
  "    entry_points=\x7b",
  "        \"console_scripts\": [\"" ++ out "cfg.server_name" ++ "=" ++ out "cfg.server_name" ++
    ".__main__:main\"],",
  "    \x7d,",
  tag "if info.description",
  "    long_description=\"\"\"" ++ out "info.description" ++ "\"\"\",",
  tag "endif",
  ")"]

/-- The start of a package. -/
def packageInit : String := lines [
  "# Generated by apigen from " ++ out "info.title" ++ " " ++ out "info.version"]

/-- The start of the package of models. -/
def modelsInit : String := lines [
  "# Generated by apigen from " ++ out "info.title" ++ " " ++ out "info.version",
  tag "for name in schemas",
  "from " ++ out "cfg.server_name" ++ ".models." ++ out "name | lower_first" ++ " import " ++
    out "name" ++ "  # noqa: F401",
  tag "endfor"]

/-- The application with its routes. -/
def application : String := lines [
  "from urllib.parse import urlparse",
  "",
  "from flask import Flask",
  "",
  "from " ++ out "cfg.server_name" ++ ".encoder import JSONEncoder",
  tag "for tag in paths",
  "from " ++ out "cfg.server_name" ++ ".controllers import " ++ out "tag | snake_case" ++
    "_controller",
  tag "endfor",
  "",
  "BASE_PATH = urlparse(\"" ++ out "base_path" ++ "\").path.rstrip(\"/\")",
  "",
  "",
  "def create_app():",
  "    app = Flask(__name__)",
  "    app.json = JSONEncoder(app)",
  tag "for tag, operations in paths | items",
  tag "for op in operations",
  "    app.add_url_rule(",
  "        BASE_PATH + \"" ++ out "op.url" ++ "\",",
  "        endpoint=\"" ++ out "op.function_name" ++ "\",",
  "        view_func=" ++ out "tag | snake_case" ++ "_controller." ++
    out "op.function_name | snake_case" ++ ",",
  "        methods=[\"" ++ out "op.method | upper" ++ "\"],",
  "    )",
  tag "endfor",
  tag "endfor",
  "    return app",
  "",
  "",
  "def main():",
  "    create_app().run(host=\"0.0.0.0\", port=8080)",
  "",
  "",
  "if __name__ == \"__main__\":",
  "    main()"]

/-- Reading of decoded data. -/
def util : String := lines [
  "import datetime",
  "import typing",
  "",
  "from dateutil import parser",
  "",
  "PRIMITIVES = (int, float, str, bool)",
  "",
  "",
  "def deserialize(data, klass):",
  "    \"\"\"Turn decoded JSON into an instance of ``klass``.\"\"\"",
  "    if data is None:",
  "        return None",
  "    if klass in PRIMITIVES:",
  "        return klass(data)",
  "    if klass is object:",
  "        return data",
  "    if klass is datetime.date:",
  "        return parser.parse(data).date()",
  "    if klass is datetime.datetime:",
  "        return parser.parse(data)",
  "    origin = typing.get_origin(klass)",
  "    if origin is list:",
  "        (inner,) = typing.get_args(klass)",
  "        return [deserialize(item, inner) for item in data]",
  "    if origin is dict:",
  "        _, inner = typing.get_args(klass)",
  "        return \x7bkey: deserialize(value, inner) for key, value in data.items()\x7d",
  "    return klass.from_dict(data)"]

/-- Writing of models. -/
def encoder : String := lines [
  "from flask.json.provider import DefaultJSONProvider",
  "",
  "from " ++ out "cfg.server_name" ++ ".models.base_model import Model",
  "",
  "",
  "class JSONEncoder(DefaultJSONProvider):",
  "    include_nulls = False",
  "",
  "    def default(self, o):",
  "        if isinstance(o, Model):",
  "            return o.to_dict(include_nulls=self.include_nulls)",
  "        return DefaultJSONProvider.default(o)"]

/-- What models have in common. -/
def baseModel : String := lines [
  "import typing",
  "",
  "from " ++ out "cfg.server_name" ++ " import util",
  "",
  "T = typing.TypeVar(\"T\")",
  "",
  "",
  "class Model:",
  "    # attribute name -> python type",
  "    openapi_types: typing.Dict[str, type] = \x7b\x7d",
  "",
  "    # attribute name -> json key",
  "    attribute_map: typing.Dict[str, str] = \x7b\x7d",
  "",
  "    @classmethod",
  "    def from_dict(cls: typing.Type[T], data) -> T:",
  "        kwargs = \x7b\x7d",
  "        for attr, key in cls.attribute_map.items():",
  "            if key in data:",
  "                kwargs[attr] = util.deserialize(data[key], cls.openapi_types[attr])",
  "        return cls(**kwargs)",
  "",
  "    def to_dict(self, include_nulls=False):",
  "        result = \x7b\x7d",
  "        for attr, key in self.attribute_map.items():",
  "            value = getattr(self, attr)",
  "            if value is None and not include_nulls:",
  "                continue",
  "            result[key] = _plain(value, include_nulls)",
  "        return result",
  "",
  "    def __eq__(self, other):",
  "        return type(self) is type(other) and self.__dict__ == other.__dict__",
  "",
  "    def __repr__(self):",
  "        return f\"\x7btype(self).__name__\x7d(\x7bself.to_dict()!r\x7d)\"",
  "",
  "",
  "def _plain(value, include_nulls):",
  "    if isinstance(value, Model):",
  "        return value.to_dict(include_nulls)",
  "    if isinstance(value, list):",
  "        return [_plain(item, include_nulls) for item in value]",
  "    if isinstance(value, dict):",
  "        return \x7bkey: _plain(item, include_nulls) for key, item in value.items()\x7d",
  "    if hasattr(value, \"isoformat\"):",
  "        return value.isoformat()",
  "    return value"]

/-- One model. -/
def model : String := lines [
  tag ("set primitives = \x7b\"string\": \"str\", \"integer\": \"int\", \"number\": " ++
    "\"float\", \"boolean\": \"bool\"\x7d"),
  "from datetime import date, datetime  # noqa: F401",
  "from typing import Dict, List  # noqa: F401",
  "",
  "from " ++ out "cfg.server_name" ++ ".models.base_model import Model",
  tag "for dep in schema.dependencies",
  "from " ++ out "cfg.server_name" ++ ".models." ++ out "dep | lower_first" ++ " import " ++
    out "dep",
  tag "endfor",
  tag "if schema.ref_name",
  "",
  "",
  out "schema.name" ++ " = " ++ out "schema.ref_name",
  tag "elif schema.properties or schema.type == \"object\"",
  "",
  "",
  "class " ++ out "schema.name" ++ "(Model):",
  "    \"\"\"" ++ out "schema.description or schema.title or schema.name" ++ "\"\"\"",
  tag "for prop in schema.properties if prop.enum_values",
  "",
  "    " ++ out "prop.name | snake_case | upper" ++ "_VALUES = [" ++
    tag "for value in prop.enum_values" ++ "\"" ++ out "value" ++ "\"" ++ tag "if not loop.last" ++
    ", " ++ tag "endif" ++ tag "endfor" ++ "]",
  tag "endfor",
  "",
  "    openapi_types = \x7b",
  tag "for prop in schema.properties",
  "        \"" ++ out "prop.name | snake_case" ++ "\": " ++ out "prop.type" ++ ",",
  tag "endfor",
  "    \x7d",
  "",
  "    attribute_map = \x7b",
  tag "for prop in schema.properties",
  "        \"" ++ out "prop.name | snake_case" ++ "\": \"" ++ out "prop.name" ++ "\",",
  tag "endfor",
  "    \x7d",
  "",
  "    def __init__(self" ++ tag "for prop in schema.properties" ++ ", " ++
    out "prop.name | snake_case" ++ "=None" ++ tag "endfor" ++ "):",
  tag "for prop in schema.properties",
  tag "if prop.enum_values",
  "        if " ++ out "prop.name | snake_case" ++ " is not None and " ++
    out "prop.name | snake_case" ++ " not in self." ++ out "prop.name | snake_case | upper" ++
    "_VALUES:",
  "            raise ValueError(f\"invalid " ++ out "prop.name" ++ ": " ++ out "'\x7b'" ++
    out "prop.name | snake_case" ++ "!r" ++ out "'\x7d'" ++ "\")",
  tag "endif",
  tag "if prop.is_required",
  "        if " ++ out "prop.name | snake_case" ++ " is None:",
  "            raise ValueError(\"" ++ out "prop.name" ++ " is required\")",
  tag "endif",
  "        self." ++ out "prop.name | snake_case" ++ " = " ++ out "prop.name | snake_case",
  tag "else",
  "        pass",
  tag "endfor",
  tag "elif schema.type == \"array\"",
  "",
  "",
  out "schema.name" ++ " = List[" ++ out "schema.dependencies | first | default(\"object\")" ++
    "]",
  tag "else",
  "",
  "",
  out "schema.name" ++ " = " ++ out "primitives[schema.type] | default(\"object\")",
  tag "endif"]

/-- The functions of one tag. -/
def controller : String := lines [
  "from flask import request",
  "",
  "from " ++ out "cfg.server_name" ++ " import util  # noqa: F401",
  tag "for dep in tag_dependencies",
  "from " ++ out "cfg.server_name" ++ ".models." ++ out "dep | lower_first" ++ " import " ++
    out "dep" ++ "  # noqa: F401",
  tag "endfor",
  tag "for op in operations",
  "",
  "",
  "def " ++ out "op.function_name | snake_case" ++ "(" ++
    tag "for param in op.parameters if param.location == \"path\"" ++ out "param.name" ++
    tag "if not loop.last" ++ ", " ++ tag "endif" ++ tag "endfor" ++ "):",
  "    \"\"\"" ++ out "op.summary or op.function_name",
  tag "if op.description",
  "",
  "    " ++ out "op.description",
  tag "endif",
  tag "if op.parameters",
  "",
  tag "for param in op.parameters",
  "    :param " ++ out "param.name" ++ ": " ++ out "param.description or \"\"" ++ " (" ++
    out "param.location" ++ tag "if param.required" ++ ", required" ++ tag "endif" ++ ")",
  tag "endfor",
  tag "endif",
  "    \"\"\"",
  tag "for param in op.parameters if param.location == \"query\"",
  "    " ++ out "param.name | snake_case" ++ " = request.args.get(\"" ++ out "param.name" ++
    "\")",
  tag "endfor",
  tag "for param in op.parameters if param.location == \"header\"",
  "    " ++ out "param.name | snake_case" ++ " = request.headers.get(\"" ++ out "param.name" ++
    "\")",
  tag "endfor",
  tag "if op.request_body",
  "    body = request.get_json(silent=True)",
  tag "for content in op.request_body.contents if content.type in schemas",
  tag "if loop.first",
  "    if body is not None:",
  "        body = " ++ out "content.type" ++ ".from_dict(body)",
  tag "endif",
  tag "endfor",
  tag "endif",
  "    return \"do some magic!\", 501",
  tag "endfor"]

/-- The templates with their names. -/
def templates : List (String × String) := [
  ("server_flask/requirements.j2", requirements),
  ("server_flask/Dockerfile.j2", dockerfile),
  ("server_flask/setup.j2", setup),
  ("server_flask/init.j2", packageInit),
  ("server_flask/models_init.j2", modelsInit),
  ("server_flask/main.j2", application),
  ("server_flask/util.j2", util),
  ("server_flask/encoder.j2", encoder),
  ("server_flask/base_model.j2", baseModel),
  ("server_flask/model.j2", model),
  ("server_flask/controller.j2", controller)]

end ApiScaffold.Backend.Flask
